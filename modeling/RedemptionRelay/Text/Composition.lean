/-! # Composition

A letter and a mark behind it are the same as the letter with that mark, where
there is such a letter. Only letters that folding leaves as they are occur here.
-/

namespace RedemptionRelay.Composition

/-- A mark, letters that take it and, place by place, the letters with it. -/
def table : List (Char × String × String) :=
  [('\u0300', "aeiouünеиēōwâăêôơưyἀἁἐἑἠἡἰἱὀὁὐὑὠὡαεη", "àèìòùǜǹѐѝḕṑẁầằềồờừỳἂἃἒἓἢἣἲἳὂὃὒὓὢὣὰὲὴ"),
    ('\u0300', "ιουωϊϋ", "ὶὸὺὼῒῢ"),
    ('\u0301', "aeiouyclnrszügåæøϊαεηιϋουωгкçēïkmõōp", "áéíóúýćĺńŕśźǘǵǻǽǿΐάέήίΰόύώѓќḉḗḯḱḿṍṓṕ"),
    ('\u0301', "ũwâăêôơưἀἁἐἑἠἡἰἱὀὁὐὑὠὡ", "ṹẃấắếốớứἄἅἔἕἤἥἴἵὄὅὔὕὤὥ"),
    ('\u0302', "aeioucghjswyzạẹọ", "âêîôûĉĝĥĵŝŵŷẑậệộ"),
    ('\u0303', "anoiuvâăeêôơưy", "ãñõĩũṽẫẵẽễỗỡữỹ"),
    ('\u0304', "aeiouüäȧæǫöõȯyиуgḷṛαιυ", "āēīōūǖǟǡǣǭȫȭȱȳӣӯḡḹṝᾱῑῡ"),
    ('\u0306', "aegiouиужаеȩạαιυ", "ăĕğĭŏŭйўӂӑӗḝặᾰῐῠ"),
    ('\u0307', "cegzaobdfhmnprsśšṣtwxy", "ċėġżȧȯḃḋḟḣṁṅṗṙṡṥṧṩṫẇẋẏ"),
    ('\u0308', "aeiouyιυеіаәжзиоөэучыhõūwxt", "äëïöüÿϊϋёїӓӛӝӟӥӧӫӭӱӵӹḧṏṻẅẍẗ"),
    ('\u0309', "aâăeêioôơuưy", "ảẩẳẻểỉỏổởủửỷ"),
    ('\u030a', "auwy", "åůẘẙ"),
    ('\u030b', "ouу", "őűӳ"),
    ('\u030c', "cdelnrstzaiouügkʒjh", "čďěľňřšťžǎǐǒǔǚǧǩǯǰȟ"),
    ('\u030f', "aeioruѵ", "ȁȅȉȍȑȕѷ"),
    ('\u0311', "aeioru", "ȃȇȋȏȓȗ"),
    ('\u0313', "αεηιουωρ", "ἀἐἠἰὀὐὠῤ"),
    ('\u0314', "αεηιουωρ", "ἁἑἡἱὁὑὡῥ"),
    ('\u031b', "ou", "ơư"),
    ('\u0323', "bdhklmnrstvwzaeioơuưy", "ḅḍḥḳḷṃṇṛṣṭṿẉẓạẹịọợụựỵ"),
    ('\u0324', "u", "ṳ"),
    ('\u0325', "a", "ḁ"),
    ('\u0326', "st", "șț"),
    ('\u0327', "cgklnrstedh", "çģķļņŗşţȩḑḩ"),
    ('\u0328', "aeiuo", "ąęįųǫ"),
    ('\u032d', "delntu", "ḓḙḽṋṱṷ"),
    ('\u032e', "h", "ḫ"),
    ('\u0330', "eiu", "ḛḭṵ"),
    ('\u0331', "bdklnrtzh", "ḇḏḵḻṉṟṯẕẖ"),
    ('\u0338', "←→↔⇐⇔⇒∃∈∋∣∥∼≃≅≈=≡≍<>≤≥≲≳≶≷≺≻⊂⊃⊆⊇⊢⊨⊩⊫", "↚↛↮⇍⇎⇏∄∉∌∤∦≁≄≇≉≠≢≭≮≯≰≱≴≵≸≹⊀⊁⊄⊅⊈⊉⊬⊭⊮⊯"),
    ('\u0338', "≼≽⊑⊒⊲⊳⊴⊵", "⋠⋡⋢⋣⋪⋫⋬⋭"),
    ('\u0342', "ἀἁἠἡἰἱὐὑὠὡαηιϊυϋω", "ἆἇἦἧἶἷὖὗὦὧᾶῆῖῗῦῧῶ"),
    ('\u0653', "ا", "آ"),
    ('\u0654', "اويەہے", "أؤئۀۂۓ"),
    ('\u0655', "ا", "إ"),
    ('\u093c', "नरळ", "ऩऱऴ"),
    ('\u09be', "\u09c7", "\u09cb"),
    ('\u09d7', "\u09c7", "\u09cc"),
    ('\u0b3e', "\u0b47", "\u0b4b"),
    ('\u0b56', "\u0b47", "\u0b48"),
    ('\u0b57', "\u0b47", "\u0b4c"),
    ('\u0bbe', "\u0bc6\u0bc7", "\u0bca\u0bcb"),
    ('\u0bd7', "ஒ\u0bc6", "ஔ\u0bcc"),
    ('\u0c56', "\u0c46", "\u0c48"),
    ('\u0cc2', "\u0cc6", "\u0cca"),
    ('\u0cd5', "\u0cbf\u0cc6\u0cca", "\u0cc0\u0cc7\u0ccb"),
    ('\u0cd6', "\u0cc6", "\u0cc8"),
    ('\u0d3e', "\u0d46\u0d47", "\u0d4a\u0d4b"),
    ('\u0d57', "\u0d46", "\u0d4c"),
    ('\u0dca', "\u0dd9\u0ddc", "\u0dda\u0ddd"),
    ('\u0dcf', "\u0dd9", "\u0ddc"),
    ('\u0ddf', "\u0dd9", "\u0dde"),
    ('\u102e', "ဥ", "ဦ"),
    ('\u1b35', "ᬅᬇᬉᬋᬍᬑ\u1b3a\u1b3c\u1b3e\u1b3f\u1b42", "ᬆᬈᬊᬌᬎᬒ\u1b3b\u1b3d\u1b40\u1b41\u1b43"),
    ('\u3099', "かきくけこさしすせそたちつてとはひふへほうゝカキクケコサシスセソタチツテ", "がぎぐげござじずぜぞだぢづでどばびぶべぼゔゞガギグゲゴザジズゼゾダヂヅデ"),
    ('\u3099', "トハヒフヘホウワヰヱヲヽ", "ドバビブベボヴヷヸヹヺヾ"),
    ('\u309a', "はひふへほハヒフヘホ", "ぱぴぷぺぽパピプペポ")]

def pair? (letter mark : Char) : Option Char :=
  table.findSome? fun (other, letters, composed) =>
    if other = mark then (letters.toList.zip composed.toList).lookup letter else none

/-- Composes from left to right; `done` is what comes before, latest first. -/
def composeAfter (done : List Char) : List Char → List Char
  | [] => done.reverse
  | c :: rest =>
      match done with
      | [] => composeAfter [c] rest
      | letter :: before =>
          match pair? letter c with
          | some composed => composeAfter (composed :: before) rest
          | none => composeAfter (c :: done) rest

def compose (chars : List Char) : List Char :=
  composeAfter [] chars

end RedemptionRelay.Composition
