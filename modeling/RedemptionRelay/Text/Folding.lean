import RedemptionRelay.Text.Ranges

/-! # Folding

In a name many characters stand for simpler ones: a capital letter for the
small one, a wide, raised or circled sign for the plain one, a ligature for its
letters. A character that stands for nothing else is kept, and some do not count
at all.
-/

namespace RedemptionRelay.Folding

/-- Capital letters from `first` to `last`, every `step`-th one, and how far
away their small letters are. -/
structure CaseRun where
  first : Nat
  last : Nat
  step : Nat
  distance : Int
deriving DecidableEq, Repr

def CaseRun.contains (run : CaseRun) (code : Nat) : Bool :=
  run.first ≤ code && code ≤ run.last && (code - run.first) % run.step == 0

/-- The capital letters beyond ASCII that have one small letter. -/
def caseRuns : List CaseRun :=
  [⟨0xc0, 0xd6, 1, 32⟩, ⟨0xd8, 0xde, 1, 32⟩, ⟨0x100, 0x12e, 2, 1⟩, ⟨0x134, 0x136, 2, 1⟩,
    ⟨0x139, 0x13d, 2, 1⟩, ⟨0x141, 0x147, 2, 1⟩, ⟨0x14a, 0x176, 2, 1⟩, ⟨0x178, 0x178, 1, -121⟩,
    ⟨0x179, 0x17d, 2, 1⟩, ⟨0x181, 0x181, 1, 210⟩, ⟨0x182, 0x184, 2, 1⟩, ⟨0x186, 0x186, 1, 206⟩,
    ⟨0x187, 0x187, 1, 1⟩, ⟨0x189, 0x18a, 1, 205⟩, ⟨0x18b, 0x18b, 1, 1⟩, ⟨0x18e, 0x18e, 1, 79⟩,
    ⟨0x18f, 0x18f, 1, 202⟩, ⟨0x190, 0x190, 1, 203⟩, ⟨0x191, 0x191, 1, 1⟩, ⟨0x193, 0x193, 1, 205⟩,
    ⟨0x194, 0x194, 1, 207⟩, ⟨0x196, 0x196, 1, 211⟩, ⟨0x197, 0x197, 1, 209⟩, ⟨0x198, 0x198, 1, 1⟩,
    ⟨0x19c, 0x19c, 1, 211⟩, ⟨0x19d, 0x19d, 1, 213⟩, ⟨0x19f, 0x19f, 1, 214⟩, ⟨0x1a0, 0x1a4, 2, 1⟩,
    ⟨0x1a6, 0x1a6, 1, 218⟩, ⟨0x1a7, 0x1a7, 1, 1⟩, ⟨0x1a9, 0x1a9, 1, 218⟩, ⟨0x1ac, 0x1ac, 1, 1⟩,
    ⟨0x1ae, 0x1ae, 1, 218⟩, ⟨0x1af, 0x1af, 1, 1⟩, ⟨0x1b1, 0x1b2, 1, 217⟩, ⟨0x1b3, 0x1b5, 2, 1⟩,
    ⟨0x1b7, 0x1b7, 1, 219⟩, ⟨0x1b8, 0x1b8, 1, 1⟩, ⟨0x1bc, 0x1bc, 1, 1⟩, ⟨0x1cd, 0x1db, 2, 1⟩,
    ⟨0x1de, 0x1ee, 2, 1⟩, ⟨0x1f4, 0x1f4, 1, 1⟩, ⟨0x1f6, 0x1f6, 1, -97⟩, ⟨0x1f7, 0x1f7, 1, -56⟩,
    ⟨0x1f8, 0x21e, 2, 1⟩, ⟨0x220, 0x220, 1, -130⟩, ⟨0x222, 0x232, 2, 1⟩, ⟨0x23a, 0x23a, 1, 10795⟩,
    ⟨0x23b, 0x23b, 1, 1⟩, ⟨0x23d, 0x23d, 1, -163⟩, ⟨0x23e, 0x23e, 1, 10792⟩, ⟨0x241, 0x241, 1, 1⟩,
    ⟨0x243, 0x243, 1, -195⟩, ⟨0x244, 0x244, 1, 69⟩, ⟨0x245, 0x245, 1, 71⟩, ⟨0x246, 0x24e, 2, 1⟩,
    ⟨0x345, 0x345, 1, 116⟩, ⟨0x370, 0x372, 2, 1⟩, ⟨0x376, 0x376, 1, 1⟩, ⟨0x37f, 0x37f, 1, 116⟩,
    ⟨0x386, 0x386, 1, 38⟩, ⟨0x388, 0x38a, 1, 37⟩, ⟨0x38c, 0x38c, 1, 64⟩, ⟨0x38e, 0x38f, 1, 63⟩,
    ⟨0x391, 0x3a1, 1, 32⟩, ⟨0x3a3, 0x3ab, 1, 32⟩, ⟨0x3cf, 0x3cf, 1, 8⟩, ⟨0x3d8, 0x3ee, 2, 1⟩,
    ⟨0x3f7, 0x3f7, 1, 1⟩, ⟨0x3fa, 0x3fa, 1, 1⟩, ⟨0x3fd, 0x3ff, 1, -130⟩, ⟨0x400, 0x40f, 1, 80⟩,
    ⟨0x410, 0x42f, 1, 32⟩, ⟨0x460, 0x480, 2, 1⟩, ⟨0x48a, 0x4be, 2, 1⟩, ⟨0x4c0, 0x4c0, 1, 15⟩,
    ⟨0x4c1, 0x4cd, 2, 1⟩, ⟨0x4d0, 0x52e, 2, 1⟩, ⟨0x531, 0x556, 1, 48⟩, ⟨0x10a0, 0x10c5, 1, 7264⟩,
    ⟨0x10c7, 0x10c7, 1, 7264⟩, ⟨0x10cd, 0x10cd, 1, 7264⟩, ⟨0x13f8, 0x13fd, 1, -8⟩,
    ⟨0x1c80, 0x1c80, 1, -6222⟩, ⟨0x1c81, 0x1c81, 1, -6221⟩, ⟨0x1c82, 0x1c82, 1, -6212⟩,
    ⟨0x1c83, 0x1c84, 1, -6210⟩, ⟨0x1c85, 0x1c85, 1, -6211⟩, ⟨0x1c86, 0x1c86, 1, -6204⟩,
    ⟨0x1c87, 0x1c87, 1, -6180⟩, ⟨0x1c88, 0x1c88, 1, 35267⟩, ⟨0x1c90, 0x1cba, 1, -3008⟩,
    ⟨0x1cbd, 0x1cbf, 1, -3008⟩, ⟨0x1e00, 0x1e94, 2, 1⟩, ⟨0x1e9b, 0x1e9b, 1, -58⟩,
    ⟨0x1ea0, 0x1efe, 2, 1⟩, ⟨0x1f08, 0x1f0f, 1, -8⟩, ⟨0x1f18, 0x1f1d, 1, -8⟩,
    ⟨0x1f28, 0x1f2f, 1, -8⟩, ⟨0x1f38, 0x1f3f, 1, -8⟩, ⟨0x1f48, 0x1f4d, 1, -8⟩,
    ⟨0x1f59, 0x1f5f, 2, -8⟩, ⟨0x1f68, 0x1f6f, 1, -8⟩, ⟨0x1fb8, 0x1fb9, 1, -8⟩,
    ⟨0x1fba, 0x1fba, 1, -74⟩, ⟨0x1fbe, 0x1fbe, 1, -7173⟩, ⟨0x1fc8, 0x1fca, 2, -86⟩,
    ⟨0x1fd8, 0x1fd9, 1, -8⟩, ⟨0x1fda, 0x1fda, 1, -100⟩, ⟨0x1fe8, 0x1fe9, 1, -8⟩,
    ⟨0x1fea, 0x1fea, 1, -112⟩, ⟨0x1fec, 0x1fec, 1, -7⟩, ⟨0x1ff8, 0x1ff8, 1, -128⟩,
    ⟨0x1ffa, 0x1ffa, 1, -126⟩, ⟨0x2126, 0x2126, 1, -7517⟩, ⟨0x212a, 0x212a, 1, -8383⟩,
    ⟨0x212b, 0x212b, 1, -8262⟩, ⟨0x2132, 0x2132, 1, 28⟩, ⟨0x2183, 0x2183, 1, 1⟩,
    ⟨0x2c00, 0x2c2f, 1, 48⟩, ⟨0x2c60, 0x2c60, 1, 1⟩, ⟨0x2c62, 0x2c62, 1, -10743⟩,
    ⟨0x2c63, 0x2c63, 1, -3814⟩, ⟨0x2c64, 0x2c64, 1, -10727⟩, ⟨0x2c67, 0x2c6b, 2, 1⟩,
    ⟨0x2c6d, 0x2c6d, 1, -10780⟩, ⟨0x2c6e, 0x2c6e, 1, -10749⟩, ⟨0x2c6f, 0x2c6f, 1, -10783⟩,
    ⟨0x2c70, 0x2c70, 1, -10782⟩, ⟨0x2c72, 0x2c72, 1, 1⟩, ⟨0x2c75, 0x2c75, 1, 1⟩,
    ⟨0x2c7e, 0x2c7f, 1, -10815⟩, ⟨0x2c80, 0x2ce2, 2, 1⟩, ⟨0x2ceb, 0x2ced, 2, 1⟩,
    ⟨0x2cf2, 0x2cf2, 1, 1⟩, ⟨0xa640, 0xa66c, 2, 1⟩, ⟨0xa680, 0xa69a, 2, 1⟩,
    ⟨0xa722, 0xa72e, 2, 1⟩, ⟨0xa732, 0xa76e, 2, 1⟩, ⟨0xa779, 0xa77b, 2, 1⟩,
    ⟨0xa77d, 0xa77d, 1, -35332⟩, ⟨0xa77e, 0xa786, 2, 1⟩, ⟨0xa78b, 0xa78b, 1, 1⟩,
    ⟨0xa78d, 0xa78d, 1, -42280⟩, ⟨0xa790, 0xa792, 2, 1⟩, ⟨0xa796, 0xa7a8, 2, 1⟩,
    ⟨0xa7aa, 0xa7aa, 1, -42308⟩, ⟨0xa7ab, 0xa7ab, 1, -42319⟩, ⟨0xa7ac, 0xa7ac, 1, -42315⟩,
    ⟨0xa7ad, 0xa7ad, 1, -42305⟩, ⟨0xa7ae, 0xa7ae, 1, -42308⟩, ⟨0xa7b0, 0xa7b0, 1, -42258⟩,
    ⟨0xa7b1, 0xa7b1, 1, -42282⟩, ⟨0xa7b2, 0xa7b2, 1, -42261⟩, ⟨0xa7b3, 0xa7b3, 1, 928⟩,
    ⟨0xa7b4, 0xa7c2, 2, 1⟩, ⟨0xa7c4, 0xa7c4, 1, -48⟩, ⟨0xa7c5, 0xa7c5, 1, -42307⟩,
    ⟨0xa7c6, 0xa7c6, 1, -35384⟩, ⟨0xa7c7, 0xa7c9, 2, 1⟩, ⟨0xa7d0, 0xa7d0, 1, 1⟩,
    ⟨0xa7d6, 0xa7d8, 2, 1⟩, ⟨0xa7f5, 0xa7f5, 1, 1⟩, ⟨0xab70, 0xabbf, 1, -38864⟩,
    ⟨0x10400, 0x10427, 1, 40⟩, ⟨0x104b0, 0x104d3, 1, 40⟩, ⟨0x10570, 0x10594, 2, 39⟩,
    ⟨0x10571, 0x10579, 2, 39⟩, ⟨0x1057d, 0x10589, 2, 39⟩, ⟨0x1058d, 0x10591, 2, 39⟩,
    ⟨0x10595, 0x10595, 1, 39⟩, ⟨0x10c80, 0x10cb2, 1, 64⟩, ⟨0x118a0, 0x118bf, 1, 32⟩,
    ⟨0x16e40, 0x16e5f, 1, 32⟩, ⟨0x1e030, 0x1e038, 1, -121856⟩, ⟨0x1e039, 0x1e03b, 1, -121855⟩,
    ⟨0x1e03c, 0x1e046, 1, -121854⟩, ⟨0x1e047, 0x1e047, 1, -121852⟩,
    ⟨0x1e048, 0x1e049, 1, -121851⟩, ⟨0x1e04a, 0x1e04a, 1, -80321⟩, ⟨0x1e04b, 0x1e04b, 1, -121714⟩,
    ⟨0x1e04c, 0x1e04c, 1, -121846⟩, ⟨0x1e04d, 0x1e04d, 1, -121845⟩,
    ⟨0x1e04e, 0x1e04e, 1, -121701⟩, ⟨0x1e04f, 0x1e04f, 1, -121760⟩,
    ⟨0x1e050, 0x1e050, 1, -121729⟩, ⟨0x1e051, 0x1e059, 1, -121889⟩,
    ⟨0x1e05a, 0x1e05b, 1, -121888⟩, ⟨0x1e05c, 0x1e05d, 1, -121886⟩,
    ⟨0x1e05e, 0x1e05e, 1, -121885⟩, ⟨0x1e05f, 0x1e064, 1, -121884⟩,
    ⟨0x1e065, 0x1e066, 1, -121883⟩, ⟨0x1e067, 0x1e067, 1, -121814⟩,
    ⟨0x1e068, 0x1e068, 1, -121874⟩, ⟨0x1e069, 0x1e069, 1, -121876⟩,
    ⟨0x1e06a, 0x1e06a, 1, -121867⟩, ⟨0x1e06b, 0x1e06b, 1, -121792⟩, ⟨0x1e06c, 0x1e06c, 1, -80411⟩,
    ⟨0x1e06d, 0x1e06d, 1, -121788⟩, ⟨0x1e900, 0x1e921, 1, 34⟩]

/-- Signs and, place by place, the plain signs that they stand for. -/
def likenesses : List (String × String) :=
  [("µſẞϐϑϒϕϖϰϱϲϴϵϹ",
      "μsßβθυφπκρσθεσ"),
    ("ª²³¹ºʰʱʲʳʴʵʶʷʸˠˡˢˣˤჼᴬᴭᴮᴰᴱᴲᴳᴴᴵᴶᴷᴸᴹᴺᴼᴽᴾᴿᵀᵁ",
      "a231ohɦjrɹɻʁwyɣlsxʕნaæbdeǝghijklmnoȣprtu"),
    ("ᵂᵃᵄᵅᵆᵇᵈᵉᵊᵋᵌᵍᵏᵐᵑᵒᵓᵔᵕᵖᵗᵘᵙᵚᵛᵜᵝᵞᵟᵠᵡᵢᵣᵤᵥᵦᵧᵨᵩᵪ",
      "waɐɑᴂbdeəɛɜgkmŋoɔᴖᴗptuᴝɯvᴥβγδφχiruvβγρφχ"),
    ("ᵸᶛᶜᶝᶞᶟᶠᶡᶢᶣᶤᶥᶦᶧᶨᶩᶪᶫᶬᶭᶮᶯᶰᶱᶲᶳᶴᶵᶶᶷᶸᶹᶺᶻᶼᶽᶾᶿ⁰ⁱ",
      "нɒcɕðɜfɟɡɥɨɩɪᵻʝɭᶅʟɱɰɲɳɴɵɸʂʃƫʉʊᴜʋʌzʐʑʒθ0i"),
    ("⁴⁵⁶⁷⁸⁹⁺⁻⁼⁽⁾ⁿ₀₁₂₃₄₅₆₇₈₉₊₋₌₍₎ₐₑₒₓₔₕₖₗₘₙₚₛₜ",
      "456789+−=()n0123456789+−=()aeoxəhklmnpst"),
    ("ⱼⱽⵯ㆒㆓㆔㆕㆖㆗㆘㆙㆚㆛㆜㆝㆞㆟ꚜꚝꝰꟲꟳꟴꟸꟹꭜꭝꭞꭟꭩ",
      "jvⵡ一二三四上中下甲乙丙丁天地人ъьꝯcfqħœꜧꬷɫꭒʍ"),
    ("①②③④⑤⑥⑦⑧⑨ⒶⒷⒸⒹⒺⒻⒼⒽⒾⒿⓀⓁⓂⓃⓄⓅⓆⓇⓈⓉⓊⓋⓌⓍⓎⓏⓐⓑⓒⓓⓔ",
      "123456789abcdefghijklmnopqrstuvwxyzabcde"),
    ("ⓕⓖⓗⓘⓙⓚⓛⓜⓝⓞⓟⓠⓡⓢⓣⓤⓥⓦⓧⓨⓩ⓪",
      "fghijklmnopqrstuvwxyz0"),
    ("ℂℇℊℋℌℍℎℏℐℑℒℓℕℙℚℛℜℝℤℨℬℭℯℰℱℳℴℵℶℷℸℹℼℽℾℿ⅀ⅅⅆⅇ",
      "cɛghhhhħiillnpqrrrzzbceefmoאבגדiπγγπ∑dde"),
    ("ⅈⅉⅠⅤⅩⅬⅭⅮⅯⅰⅴⅹⅼⅽⅾⅿ",
      "ijivxlcdmivxlcdm"),
    ("ｦｧｨｩｪｫｬｭｮｯｰｱｲｳｴｵｶｷｸｹｺｻｼｽｾｿﾀﾁﾂﾃﾄﾅﾆﾇﾈﾉﾊﾋﾌﾍ",
      "ヲァィゥェォャュョッーアイウエオカキクケコサシスセソタチツテトナニヌネノハヒフヘ"),
    ("ﾎﾏﾐﾑﾒﾓﾔﾕﾖﾗﾘﾙﾚﾛﾜﾝﾞﾟ",
      "ホマミムメモヤユヨラリルレロワン\u3099\u309a"),
    ("｠￠￡￢￤￥￦",
      "⦆¢£¬¦¥₩")]

def expansions : List (Char × String) :=
  [('¼', "1⁄4"), ('½', "1⁄2"), ('¾', "3⁄4"), ('İ', "i\u0307"), ('Ĳ', "ij"), ('ĳ', "ij"),
    ('Ŀ', "l·"), ('ŀ', "l·"), ('ŉ', "ʼn"), ('Ǆ', "dž"), ('ǅ', "dž"), ('ǆ', "dž"), ('Ǉ', "lj"),
    ('ǈ', "lj"), ('ǉ', "lj"), ('Ǌ', "nj"), ('ǋ', "nj"), ('ǌ', "nj"), ('Ǳ', "dz"), ('ǲ', "dz"),
    ('ǳ', "dz"), ('և', "եւ"), ('ᾀ', "ἀι"), ('ᾁ', "ἁι"), ('ᾂ', "ἂι"), ('ᾃ', "ἃι"), ('ᾄ', "ἄι"),
    ('ᾅ', "ἅι"), ('ᾆ', "ἆι"), ('ᾇ', "ἇι"), ('ᾈ', "ἀι"), ('ᾉ', "ἁι"), ('ᾊ', "ἂι"), ('ᾋ', "ἃι"),
    ('ᾌ', "ἄι"), ('ᾍ', "ἅι"), ('ᾎ', "ἆι"), ('ᾏ', "ἇι"), ('ᾐ', "ἠι"), ('ᾑ', "ἡι"), ('ᾒ', "ἢι"),
    ('ᾓ', "ἣι"), ('ᾔ', "ἤι"), ('ᾕ', "ἥι"), ('ᾖ', "ἦι"), ('ᾗ', "ἧι"), ('ᾘ', "ἠι"), ('ᾙ', "ἡι"),
    ('ᾚ', "ἢι"), ('ᾛ', "ἣι"), ('ᾜ', "ἤι"), ('ᾝ', "ἥι"), ('ᾞ', "ἦι"), ('ᾟ', "ἧι"), ('ᾠ', "ὠι"),
    ('ᾡ', "ὡι"), ('ᾢ', "ὢι"), ('ᾣ', "ὣι"), ('ᾤ', "ὤι"), ('ᾥ', "ὥι"), ('ᾦ', "ὦι"), ('ᾧ', "ὧι"),
    ('ᾨ', "ὠι"), ('ᾩ', "ὡι"), ('ᾪ', "ὢι"), ('ᾫ', "ὣι"), ('ᾬ', "ὤι"), ('ᾭ', "ὥι"), ('ᾮ', "ὦι"),
    ('ᾯ', "ὧι"), ('ᾲ', "ὰι"), ('ᾳ', "αι"), ('ᾴ', "άι"), ('ᾼ', "αι"), ('ῂ', "ὴι"), ('ῃ', "ηι"),
    ('ῄ', "ήι"), ('ῌ', "ηι"), ('ῲ', "ὼι"), ('ῳ', "ωι"), ('ῴ', "ώι"), ('ῼ', "ωι"), ('№', "no"),
    ('℠', "sm"), ('℡', "tel"), ('™', "tm"), ('⅐', "1⁄7"), ('⅑', "1⁄9"), ('⅒', "1⁄10"),
    ('⅓', "1⁄3"), ('⅔', "2⁄3"), ('⅕', "1⁄5"), ('⅖', "2⁄5"), ('⅗', "3⁄5"), ('⅘', "4⁄5"),
    ('⅙', "1⁄6"), ('⅚', "5⁄6"), ('⅛', "1⁄8"), ('⅜', "3⁄8"), ('⅝', "5⁄8"), ('⅞', "7⁄8"),
    ('⅟', "1⁄"), ('Ⅱ', "ii"), ('Ⅲ', "iii"), ('Ⅳ', "iv"), ('Ⅵ', "vi"), ('Ⅶ', "vii"), ('Ⅷ', "viii"),
    ('Ⅸ', "ix"), ('Ⅺ', "xi"), ('Ⅻ', "xii"), ('ⅱ', "ii"), ('ⅲ', "iii"), ('ⅳ', "iv"), ('ⅵ', "vi"),
    ('ⅶ', "vii"), ('ⅷ', "viii"), ('ⅸ', "ix"), ('ⅺ', "xi"), ('ⅻ', "xii"), ('↉', "0⁄3"),
    ('ﬀ', "ff"), ('ﬁ', "fi"), ('ﬂ', "fl"), ('ﬃ', "ffi"), ('ﬄ', "ffl"), ('ﬅ', "st"), ('ﬆ', "st"),
    ('ﬓ', "մն"), ('ﬔ', "մե"), ('ﬕ', "մի"), ('ﬖ', "վն"), ('ﬗ', "մխ")]

/-- Joints, fillers and marks of style that do not count. -/
def ignored : List (Nat × Nat) :=
  [(0xad, 0xad), (0x34f, 0x34f), (0x115f, 0x1160), (0x17b4, 0x17b5), (0x180b, 0x180f),
    (0x200b, 0x200b), (0x2060, 0x2064), (0x206a, 0x206f), (0x3164, 0x3164), (0xfe00, 0xfe0f),
    (0xfeff, 0xfeff), (0xffa0, 0xffa0), (0x1bca0, 0x1bca3), (0x1d173, 0x1d17a), (0xe0100, 0xe01ef)]

def isFullStop (c : Char) : Bool :=
  c.toNat == 0x3002 || c.toNat == 0xff0e || c.toNat == 0xff61

def small (c : Char) : Char :=
  if c.toNat < 0x80 then c.toLower
  else
    match caseRuns.find? (·.contains c.toNat) with
    | some run => Char.ofNat ((c.toNat : Int) + run.distance).toNat
    | none => c

/-- The letters and digits that are set apart for formulas come as alphabets of
capital and small letters and as rows of digits. -/
def formulaSign? (c : Char) : Option Char :=
  let code := c.toNat
  if 0x1d400 ≤ code && code ≤ 0x1d6a3 then
    some (Char.ofNat ('a'.toNat + (code - 0x1d400) % 26))
  else if 0x1d7ce ≤ code && code ≤ 0x1d7ff then
    some (Char.ofNat ('0'.toNat + (code - 0x1d7ce) % 10))
  else none

def likeness? (c : Char) : Option Char :=
  likenesses.findSome? fun (signs, plain) => (signs.toList.zip plain.toList).lookup c

/-- Wide signs have the order of ASCII. -/
def wideSign? (c : Char) : Option Char :=
  if 0xff01 ≤ c.toNat && c.toNat ≤ 0xff5e then
    some (Char.ofNat (c.toNat - 0xff01 + 0x21)).toLower
  else none

def fold (c : Char) : List Char :=
  if isFullStop c then ['.']
  else if Ranges.contain ignored c then []
  else
    match expansions.lookup c with
    | some signs => signs.toList
    | none => [((wideSign? c <|> formulaSign? c <|> likeness? c).getD (small c))]

end RedemptionRelay.Folding
