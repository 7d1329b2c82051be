import RedemptionRelay.Http.Url

/-! # What a query says

A server takes a query for a form: `&` stands between the fields, the first `=`
of a field between its name and its value, a plus sign for a blank, and a
percent code for its byte. A text comes through as it is meant if it has none of
these marks.
-/

namespace RedemptionRelay

theorem splitAt_append {mark : Char} {front : List Char} (absent : mark ∉ front)
    (back : List Char) :
    splitAt mark (front ++ back) = (front ++ (splitAt mark back).1, (splitAt mark back).2) := by
  have passed : ∀ c ∈ front, decide (c ≠ mark) = true := by
    intro c isIn
    exact decide_eq_true fun same => absent (same ▸ isIn)
  unfold splitAt
  rw [List.dropWhile_append_of_pos passed, List.takeWhile_append_of_pos passed]
  split <;> rfl

theorem splitAt_mark (mark : Char) (back : List Char) :
    splitAt mark (mark :: back) = ([], some back) := by
  simp [splitAt]

namespace Bytes

theorem length_ofChars_cons (c : Char) (rest : List Char) :
    (ofChars (c :: rest)).length = c.utf8Size + (ofChars rest).length := by
  unfold ofChars
  rw [List.flatMap_cons, List.length_append, String.length_utf8EncodeChar]

theorem ofChars_injective {chars others : List Char} (same : ofChars chars = ofChars others) :
    chars = others := by
  have bytes : (String.ofList chars).toByteArray = (String.ofList others).toByteArray :=
    congrArg List.toByteArray same
  exact String.ofList_injective (String.toByteArray_inj.mp bytes)

theorem length_ofChars_lt {chars others : List Char} (within : chars.Sublist others)
    (differ : chars ≠ others) : (ofChars chars).length < (ofChars others).length := by
  induction within with
  | slnil => exact absurd rfl differ
  | @cons chars others c within induction =>
      rw [length_ofChars_cons]
      have size := c.utf8Size_pos
      by_cases same : chars = others
      · rw [same]
        omega
      · have shorter := induction same
        omega
  | @cons_cons chars others c within induction =>
      rw [length_ofChars_cons, length_ofChars_cons]
      exact Nat.add_lt_add_left (induction fun same => differ (same ▸ rfl)) _

end Bytes

namespace Escape

/-! ## Codes -/

/-- Behind a percent sign, this would make a code. -/
def opensCode : List Char → Bool
  | high :: low :: _ => Digits.isHexadecimal high && Digits.isHexadecimal low
  | _ => false

def isLiteral : List Char → Bool
  | [] => true
  | c :: rest => !(c = '%' && opensCode rest) && isLiteral rest

variable {c : Char} {chars rest : List Char} {reserved : List Char}

theorem opensCode_eq_false (undigit : Digits.isHexadecimal c = false) (rest : List Char) :
    opensCode (c :: rest) = false := by
  cases rest with
  | nil => rfl
  | cons => rw [opensCode, undigit, Bool.false_and]

theorem opensCode_cons_eq_false (undigit : Digits.isHexadecimal c = false) (first : Char)
    (rest : List Char) : opensCode (first :: c :: rest) = false := by
  rw [opensCode, undigit, Bool.and_false]

theorem decode_plain (plain : ¬ (c = '%' ∧ opensCode rest = true)) :
    decode (c :: rest) = String.utf8EncodeChar c ++ decode rest := by
  by_cases percent : c = '%'
  · subst percent
    have uncoded : opensCode rest = false := by simpa using plain
    match rest, uncoded with
    | [], _ => rfl
    | [_], _ => rfl
    | high :: low :: behind, uncoded =>
        rw [decode]
        unfold opensCode Digits.isHexadecimal at uncoded
        split
        · next upper lower isUpper isLower => simp [isUpper, isLower] at uncoded
        · rfl
  · rw [decode]
    exact fun _ _ _ same => absurd same percent

theorem decode_code (opens : opensCode rest = true) :
    ∃ high low behind byte, rest = high :: low :: behind ∧
      Digits.isHexadecimal high = true ∧ Digits.isHexadecimal low = true ∧
      ∀ behind', decode ('%' :: high :: low :: behind') = byte :: decode behind' := by
  match rest, opens with
  | high :: low :: behind, opens =>
      rcases Bool.and_eq_true_iff.mp opens with ⟨isHigh, isLow⟩
      rcases Option.isSome_iff_exists.mp isHigh with ⟨upper, isUpper⟩
      rcases Option.isSome_iff_exists.mp isLow with ⟨lower, isLower⟩
      refine ⟨high, low, behind, UInt8.ofNat (upper * 16 + lower), rfl, isHigh, isLow, ?_⟩
      intro behind'
      rw [decode, isUpper, isLower]

theorem decode_of_isLiteral (literal : isLiteral chars = true) :
    decode chars = Bytes.ofChars chars := by
  induction chars with
  | nil => rfl
  | cons c rest induction =>
      simp only [isLiteral, Bool.and_eq_true, Bool.not_eq_true', Bool.and_eq_false_imp,
        decide_eq_true_eq] at literal
      rw [decode_plain fun opens => by simp [literal.1 opens.1] at opens, induction literal.2]
      rfl

theorem isLiteral_of_not_mem (absent : '%' ∉ chars) : isLiteral chars = true := by
  induction chars with
  | nil => rfl
  | cons c rest induction =>
      rw [List.mem_cons, not_or] at absent
      rcases absent with ⟨other, absent⟩
      rw [isLiteral, induction absent, decide_eq_false fun same => other same.symm]
      rfl

theorem length_decode_le (chars : List Char) :
    (decode chars).length ≤ (Bytes.ofChars chars).length := by
  -- A code skips two characters, so the tail is not enough for the induction.
  induction size : chars.length using Nat.strongRecOn generalizing chars with
  | ind size' induction =>
      match chars with
      | [] => exact Nat.le_refl _
      | c :: rest =>
          rw [List.length_cons] at size
          by_cases opens : c = '%' ∧ opensCode rest = true
          · rcases decode_code opens.2 with ⟨high, low, behind, byte, rfl, -, -, decoded⟩
            simp only [List.length_cons] at size
            have shorter := induction behind.length (by omega) behind rfl
            rw [opens.1, decoded]
            simp only [Bytes.length_ofChars_cons, List.length_cons]
            have one := Char.utf8Size_pos '%'
            omega
          · have shorter := induction rest.length (by omega) rest rfl
            rw [decode_plain opens, List.length_append, String.length_utf8EncodeChar,
              Bytes.length_ofChars_cons]
            omega

theorem length_decode_lt (coded : isLiteral chars = false) :
    (decode chars).length < (Bytes.ofChars chars).length := by
  induction chars with
  | nil => cases coded
  | cons c rest induction =>
      by_cases opens : c = '%' ∧ opensCode rest = true
      · rcases decode_code opens.2 with ⟨high, low, behind, byte, rfl, -, -, decoded⟩
        have shorter := length_decode_le behind
        rw [opens.1, decoded]
        simp only [Bytes.length_ofChars_cons, List.length_cons]
        have sizes := And.intro (Char.utf8Size_pos '%') (Char.utf8Size_pos high)
        omega
      · have behind : isLiteral rest = false := by
          simpa only [isLiteral, Bool.and_eq_false_iff, Bool.not_eq_false', Bool.and_eq_true,
            decide_eq_true_eq, opens, false_or] using coded
        rw [decode_plain opens, List.length_append, String.length_utf8EncodeChar,
          Bytes.length_ofChars_cons]
        exact Nat.add_lt_add_left (induction behind) _

/-! ## Encoding -/

theorem digitValue?_digitChar : ∀ value < 16,
    Digits.digitValue? 16 (Nat.digitChar value).toUpper = some value := by
  decide

theorem decode_ofByte (byte : UInt8) (rest : List Char) :
    decode (ofByte byte ++ rest) = byte :: decode rest := by
  have bound : byte.toNat < 256 := byte.toNat_lt
  have upper := digitValue?_digitChar (byte.toNat / 16) (by omega)
  have lower := digitValue?_digitChar (byte.toNat % 16) (by omega)
  unfold ofByte
  dsimp only [List.cons_append, List.nil_append]
  rw [decode, upper, lower]
  dsimp only
  rw [Nat.div_add_mod', UInt8.ofNat_toNat]

theorem decode_flatMap_ofByte (bytes : Bytes) (rest : List Char) :
    decode (bytes.flatMap ofByte ++ rest) = bytes ++ decode rest := by
  induction bytes with
  | nil => rfl
  | cons byte bytes induction =>
      rw [List.flatMap_cons, List.append_assoc, decode_ofByte, induction]
      rfl

theorem cases_of_mem_flatMap_ofByte {bytes : Bytes} (isIn : c ∈ bytes.flatMap ofByte) :
    c = '%' ∨ Digits.isHexadecimal c = true := by
  rcases List.mem_flatMap.mp isIn with ⟨byte, -, isIn⟩
  have bound : byte.toNat < 256 := byte.toNat_lt
  have isDigit (value : Nat) (small : value < 16) :
      Digits.isHexadecimal (Nat.digitChar value).toUpper = true := by
    rw [Digits.isHexadecimal, digitValue?_digitChar value small]
    rfl
  simp only [ofByte, List.mem_cons, List.not_mem_nil, or_false] at isIn
  rcases isIn with rfl | rfl | rfl
  · exact .inl rfl
  · exact .inr (isDigit _ (by omega))
  · exact .inr (isDigit _ (by omega))

/-- What a form is read by: its marks, and the digits of codes. -/
def isMark (c : Char) : Bool :=
  ['&', '=', '+', '%'].contains c || Digits.isHexadecimal c

def sparesMarks (reserved : List Char) : Bool :=
  reserved.all (!isMark ·)

theorem toNat_lt_of_isHexadecimal (digit : Digits.isHexadecimal c = true) : c.toNat < 0x80 := by
  unfold Digits.isHexadecimal Digits.digitValue? at digit
  dsimp only at digit
  split at digit
  · next range => exact Nat.lt_of_le_of_lt range.2 (by decide)
  · split at digit
    · next range => exact Nat.lt_of_le_of_lt range.2 (by decide)
    · split at digit
      · next range => exact Nat.lt_of_le_of_lt range.2 (by decide)
      · cases digit

def hexadecimalDigits : List Char :=
  "0123456789abcdefABCDEF".toList

theorem mem_of_isHexadecimal (digit : Digits.isHexadecimal c = true) : c ∈ hexadecimalDigits := by
  have each : ∀ code < 0x80, Digits.isHexadecimal (Char.ofNat code) = true →
      Char.ofNat code ∈ hexadecimalDigits := by decide +kernel
  have isIn := each c.toNat (toNat_lt_of_isHexadecimal digit)
  rw [Char.ofNat_toNat] at isIn
  exact isIn digit

theorem isControl_eq_false_of_isMark (mark : isMark c = true) : isControl c = false := by
  rcases Bool.or_eq_true_iff.mp mark with listed | digit
  · have none : ['&', '=', '+', '%'].any isControl = false := rfl
    exact Bool.not_eq_true _ ▸ List.any_eq_false.mp none c (List.contains_iff_mem.mp listed)
  · have none : hexadecimalDigits.any isControl = false := rfl
    exact Bool.not_eq_true _ ▸ List.any_eq_false.mp none c (mem_of_isHexadecimal digit)

theorem isMark_of_isHexadecimal (digit : Digits.isHexadecimal c = true) : isMark c = true :=
  Bool.or_eq_true_iff.mpr (.inr digit)

theorem undigit_of_unmarked (unmarked : isMark c = false) : Digits.isHexadecimal c = false :=
  (Bool.or_eq_false_iff.mp unmarked).2

theorem encodeChar_cases (spares : sparesMarks reserved = true) (c : Char) :
    encodeChar reserved c = [c] ∨
      encodeChar reserved c = (String.utf8EncodeChar c).flatMap ofByte ∧ isMark c = false := by
  unfold encodeChar
  split
  · next encoded =>
      refine .inr ⟨rfl, Bool.not_eq_true _ ▸ fun mark => ?_⟩
      rw [isControl_eq_false_of_isMark mark, Bool.false_or, List.contains_iff_mem] at encoded
      have spared := List.all_eq_true.mp spares c encoded
      rw [mark] at spared
      cases spared
  · exact .inl rfl

theorem encodeChar_of_isMark (spares : sparesMarks reserved = true) (mark : isMark c = true) :
    encodeChar reserved c = [c] := by
  rcases encodeChar_cases spares c with same | ⟨-, unmarked⟩
  · exact same
  · rw [mark] at unmarked
    cases unmarked

theorem flatMap_ofByte_utf8EncodeChar (c : Char) :
    ∃ tail, (String.utf8EncodeChar c).flatMap ofByte = '%' :: tail := by
  have filled : String.utf8EncodeChar c ≠ [] :=
    List.ne_nil_of_length_pos (String.length_utf8EncodeChar c ▸ c.utf8Size_pos)
  rcases List.exists_cons_of_ne_nil filled with ⟨first, others, same⟩
  rw [same]
  exact ⟨_, rfl⟩

theorem encode_cons (reserved : List Char) (c : Char) (rest : List Char) :
    encode reserved (c :: rest) = encodeChar reserved c ++ encode reserved rest :=
  List.flatMap_cons

theorem encode_append (reserved front back : List Char) :
    encode reserved (front ++ back) = encode reserved front ++ encode reserved back :=
  List.flatMap_append

theorem mem_of_mem_encode (spares : sparesMarks reserved = true) (other : c ≠ '%')
    (undigit : Digits.isHexadecimal c = false) (isIn : c ∈ encode reserved chars) :
    c ∈ chars := by
  rcases List.mem_flatMap.mp isIn with ⟨source, isSource, isIn⟩
  rcases encodeChar_cases spares source with same | ⟨same, -⟩
  · rw [same, List.mem_singleton] at isIn
    exact isIn ▸ isSource
  · rw [same] at isIn
    rcases cases_of_mem_flatMap_ofByte isIn with percent | digit
    · exact absurd percent other
    · rw [undigit] at digit
      cases digit

end Escape

/-! ## Fields -/

namespace Form

open Escape

def unplus (c : Char) : Char :=
  if c = '+' then ' ' else c

/-- The bytes that a name or a value stands for. -/
def meaning (chars : List Char) : Bytes :=
  decode (chars.map unplus)

def parameter (piece : List Char) : Bytes × Bytes :=
  let (name, value) := splitAt '=' piece
  (meaning name, meaning (value.getD []))

def parameters (chars : List Char) : List (Bytes × Bytes) :=
  ((chars.splitOn '&').filter (!·.isEmpty)).map parameter

variable {c : Char} {chars rest : List Char} {reserved : List Char}

theorem isHexadecimal_unplus (c : Char) :
    Digits.isHexadecimal (unplus c) = Digits.isHexadecimal c := by
  unfold unplus
  split
  · next same => subst same; rfl
  · rfl

theorem unplus_eq_self (other : c ≠ '+') : unplus c = c :=
  if_neg other

theorem unplus_ne (c : Char) : unplus c ≠ '+' := by
  unfold unplus
  split
  · decide
  · assumption

theorem map_unplus_of_not_mem (absent : '+' ∉ chars) : chars.map unplus = chars := by
  have each : ∀ c ∈ chars, unplus c = id c := by
    intro c isIn
    exact unplus_eq_self fun same => absent (same ▸ isIn)
  rw [List.map_congr_left each, List.map_id]

theorem length_ofChars_map_unplus (chars : List Char) :
    (Bytes.ofChars (chars.map unplus)).length = (Bytes.ofChars chars).length := by
  induction chars with
  | nil => rfl
  | cons c rest induction =>
      have size : (unplus c).utf8Size = c.utf8Size := by
        unfold unplus
        split
        · next same => subst same; rfl
        · rfl
      rw [List.map_cons, Bytes.length_ofChars_cons, Bytes.length_ofChars_cons, size, induction]

theorem map_unplus_flatMap_ofByte (bytes : Bytes) :
    (bytes.flatMap ofByte).map unplus = bytes.flatMap ofByte := by
  apply map_unplus_of_not_mem
  intro isIn
  rcases cases_of_mem_flatMap_ofByte isIn with percent | digit
  · exact absurd percent (by decide)
  · cases digit

theorem opensCode_encode (spares : sparesMarks reserved = true) (chars : List Char) :
    opensCode ((encode reserved chars).map unplus) = opensCode (chars.map unplus) := by
  match chars with
  | [] => rfl
  | first :: rest =>
      rw [encode_cons, List.map_append, List.map_cons]
      rcases encodeChar_cases spares first with same | ⟨same, unmarked⟩
      · match rest with
        | [] => rw [same]; rfl
        | second :: behind =>
            rw [encode_cons, List.map_append, List.map_cons, same]
            rcases encodeChar_cases spares second with same' | ⟨same', unmarked⟩
            · rw [same']; rfl
            · rcases flatMap_ofByte_utf8EncodeChar second with ⟨tail, coded⟩
              have undigit : Digits.isHexadecimal (unplus second) = false :=
                isHexadecimal_unplus second ▸ undigit_of_unmarked unmarked
              rw [same', map_unplus_flatMap_ofByte, coded, opensCode_cons_eq_false undigit]
              exact opensCode_cons_eq_false rfl _ _
      · rcases flatMap_ofByte_utf8EncodeChar first with ⟨tail, coded⟩
        have undigit : Digits.isHexadecimal (unplus first) = false :=
          isHexadecimal_unplus first ▸ undigit_of_unmarked unmarked
        rw [same, map_unplus_flatMap_ofByte, coded, opensCode_eq_false undigit]
        exact opensCode_eq_false rfl _

/-- A code that a text has stays the same code. -/
theorem encode_of_opensCode (spares : sparesMarks reserved = true)
    (opens : opensCode (rest.map unplus) = true) :
    ∃ high low behind byte, rest = high :: low :: behind ∧
      encode reserved rest = high :: low :: encode reserved behind ∧
      ∀ behind', decode ('%' :: (high :: low :: behind').map unplus) =
        byte :: decode (behind'.map unplus) := by
  rcases decode_code opens with ⟨high, low, behind, byte, same, isHigh, isLow, decoded⟩
  rcases List.map_eq_cons_iff.mp same with ⟨first, rest', rfl, isFirst, same'⟩
  rcases List.map_eq_cons_iff.mp same' with ⟨second, behind', rfl, isSecond, -⟩
  have isHigh' : isMark first = true :=
    isMark_of_isHexadecimal (isHexadecimal_unplus first ▸ isFirst ▸ isHigh)
  have isLow' : isMark second = true :=
    isMark_of_isHexadecimal (isHexadecimal_unplus second ▸ isSecond ▸ isLow)
  refine ⟨first, second, behind', byte, rfl, ?_, fun rest => ?_⟩
  · rw [encode_cons, encode_cons, encodeChar_of_isMark spares isHigh',
      encodeChar_of_isMark spares isLow']
    rfl
  · rw [List.map_cons, List.map_cons, isFirst, isSecond]
    exact decoded _

theorem meaning_encode (spares : sparesMarks reserved = true) (chars : List Char) :
    meaning (encode reserved chars) = meaning chars := by
  induction size : chars.length using Nat.strongRecOn generalizing chars with
  | ind size' induction =>
      match chars with
      | [] => rfl
      | c :: rest =>
          rw [List.length_cons] at size
          have tail := induction rest.length (by omega) rest rfl
          unfold meaning at induction tail ⊢
          rw [encode_cons, List.map_append, List.map_cons]
          rcases encodeChar_cases spares c with same | ⟨same, unmarked⟩
          · rw [same, List.map_singleton, List.singleton_append]
            by_cases opens : unplus c = '%' ∧ opensCode (rest.map unplus) = true
            · rcases encode_of_opensCode spares opens.2 with
                ⟨high, low, behind, byte, rfl, encoded, decoded⟩
              rw [List.length_cons, List.length_cons] at size
              rw [opens.1, encoded, decoded, decoded,
                induction behind.length (by omega) behind rfl]
            · have opens' : ¬ (unplus c = '%' ∧
                  opensCode ((encode reserved rest).map unplus) = true) :=
                opensCode_encode spares rest ▸ opens
              rw [decode_plain opens', decode_plain opens, tail]
          · have plain : c ≠ '%' ∧ c ≠ '+' := by
              constructor <;> rintro rfl <;> cases unmarked
            rw [same, map_unplus_flatMap_ofByte, decode_flatMap_ofByte, tail,
              unplus_eq_self plain.2, decode_plain fun opens => plain.1 opens.1]

theorem length_meaning_le (chars : List Char) :
    (meaning chars).length ≤ (Bytes.ofChars chars).length := by
  rw [← length_ofChars_map_unplus chars]
  exact length_decode_le _

theorem eq_of_meaning {part whole : List Char} (within : part.Sublist whole)
    (meant : meaning part = Bytes.ofChars whole) : part = whole := by
  refine Decidable.byContradiction fun differ => ?_
  have shorter := Bytes.length_ofChars_lt within differ
  rw [← meant] at shorter
  exact absurd (length_meaning_le part) (Nat.not_le_of_gt shorter)

theorem meaning_eq_ofChars_iff (chars : List Char) :
    meaning chars = Bytes.ofChars chars ↔ '+' ∉ chars ∧ isLiteral chars = true := by
  constructor
  · intro meant
    have uncoded : isLiteral (chars.map unplus) = true := by
      cases coded : isLiteral (chars.map unplus) with
      | true => rfl
      | false =>
          have shorter := length_decode_lt coded
          rw [length_ofChars_map_unplus, ← meant] at shorter
          exact absurd shorter (Nat.lt_irrefl _)
    have same : chars.map unplus = chars :=
      Bytes.ofChars_injective ((decode_of_isLiteral uncoded).symm.trans meant)
    refine ⟨fun isIn => ?_, same ▸ uncoded⟩
    rw [← same] at isIn
    rcases List.mem_map.mp isIn with ⟨c, -, isPlus⟩
    exact unplus_ne c isPlus
  · rintro ⟨plain, literal⟩
    rw [meaning, map_unplus_of_not_mem plain, decode_of_isLiteral literal]

/-! ## Pieces -/

theorem parameters_piece (filled : chars ≠ []) (whole : '&' ∉ chars) :
    parameters chars = [parameter chars] := by
  have kept : (!chars.isEmpty) = true := by simpa using filled
  rw [parameters, List.splitOn_eq_singleton whole, List.filter_cons, if_pos kept]
  rfl

theorem parameters_cons (filled : chars ≠ []) (whole : '&' ∉ chars) (rest : List Char) :
    parameters (chars ++ '&' :: rest) = parameter chars :: parameters rest := by
  have kept : (!chars.isEmpty) = true := by simpa using filled
  have unmarked : ∀ c ∈ chars, (c == '&') = false := by
    intro c isIn
    exact beq_false_of_ne fun same => whole (same ▸ isIn)
  rw [parameters, List.splitOn,
    List.splitOnP_append_cons_of_forall_mem unmarked '&' (beq_self_eq_true _) rest,
    List.filter_cons, if_pos kept]
  rfl

structure IsName (name : List Char) : Prop where
  whole : '&' ∉ name
  unsplit : '=' ∉ name

section Named

variable {name value : List Char} (spares : sparesMarks reserved = true) (named : IsName name)
include spares named

theorem parameter_encode (value : List Char) :
    parameter (encode reserved (name ++ '=' :: value)) = (meaning name, meaning value) := by
  have unsplit : '=' ∉ encode reserved name := fun isIn =>
    named.unsplit (mem_of_mem_encode spares (by decide) rfl isIn)
  rw [parameter, encode_append, encode_cons, encodeChar_of_isMark spares rfl]
  rw [List.singleton_append, splitAt_append unsplit, splitAt_mark, List.append_nil]
  exact Prod.ext (meaning_encode spares name) (meaning_encode spares value)

theorem encode_piece (whole : '&' ∉ value) :
    encode reserved (name ++ '=' :: value) ≠ [] ∧
      '&' ∉ encode reserved (name ++ '=' :: value) := by
  constructor
  · intro empty
    rw [encode_append, encode_cons, encodeChar_of_isMark spares rfl] at empty
    cases (List.append_eq_nil_iff.mp empty).2
  · intro isIn
    rcases List.mem_append.mp (mem_of_mem_encode spares (by decide) rfl isIn) with isIn | isIn
    · exact named.whole isIn
    · exact whole (List.mem_of_ne_of_mem (by decide) isIn)

theorem parameters_encode (whole : '&' ∉ value) :
    parameters (encode reserved (name ++ '=' :: value)) = [(meaning name, meaning value)] := by
  have piece := encode_piece spares named whole
  rw [parameters_piece piece.1 piece.2, parameter_encode spares named]

theorem parameters_encode_cons (whole : '&' ∉ value) (rest : List Char) :
    parameters (encode reserved (name ++ '=' :: (value ++ '&' :: rest))) =
      (meaning name, meaning value) :: parameters (encode reserved rest) := by
  have piece := encode_piece spares named whole
  rw [← List.cons_append, ← List.append_assoc, encode_append, encode_cons reserved '&',
    encodeChar_of_isMark spares rfl, List.singleton_append, parameters_cons piece.1 piece.2,
    parameter_encode spares named]

end Named

end Form

end RedemptionRelay
