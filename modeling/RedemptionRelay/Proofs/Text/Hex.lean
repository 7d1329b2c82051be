import RedemptionRelay.Proofs.Chain.Adaptation
import RedemptionRelay.Proofs.Text.Digits

/-! # What hexadecimal texts stand for

Pairs of digits stand for bytes, in either letter case and behind any number of
marks. Just those texts are read that stand for bytes, and what is read is what
they stand for. No digit is an `x`, so that a leading zero of the first byte
starts no further mark.
-/

namespace RedemptionRelay.Hex

/-! ## Marks -/

/-- What is left of the text behind any number of marks. -/
inductive Marked (letter : Char) (rest : List Char) : List Char → Prop
  | bare : Marked letter rest rest
  | mark {chars : List Char} (marked : Marked letter rest chars) :
      Marked letter rest ('0' :: letter :: chars)

theorem marked_dropMarks (chars : List Char) : Marked 'x' (dropMarks chars) chars := by
  fun_induction dropMarks chars with
  | case1 rest induction => exact .mark induction
  | case2 chars other => exact .bare

theorem dropMarks_of_marked {rest chars : List Char} (marked : Marked 'x' rest chars)
    (bare : dropMarks rest = rest) : dropMarks chars = rest := by
  induction marked with
  | bare => exact bare
  | mark marked induction => exact induction

theorem dropMarks_of_not_mem {chars : List Char} (absent : 'x' ∉ chars) :
    dropMarks chars = chars := by
  unfold dropMarks
  split
  · exact absurd (List.mem_cons_of_mem _ List.mem_cons_self) absent
  · rfl

/-! ## Digits in either case -/

def charOf (byte : UInt8) : Char :=
  Char.ofNat byte.toNat

theorem digit_eq_digitChar : ∀ value < 16, digit value = Nat.digitChar value := by
  decide

theorem charOf_of_digitValue? {byte : UInt8} {value : Nat} (reads : digitValue? byte = some value) :
    value < 16 ∧ (charOf byte).toLower = digit value ∧
      String.utf8EncodeChar (charOf byte) = [byte] := by
  have each : ∀ code < 256, ∀ value ∈ digitValue? (UInt8.ofNat code),
      value < 16 ∧ (charOf (UInt8.ofNat code)).toLower = digit value ∧
        String.utf8EncodeChar (charOf (UInt8.ofNat code)) = [UInt8.ofNat code] := by
    decide +kernel
  have found := each byte.toNat byte.toNat_lt
  rw [UInt8.ofNat_toNat] at found
  exact found value reads

theorem utf8EncodeChar_of_toLower {c : Char} {value : Nat} (isDigit : value < 16)
    (lowers : c.toLower = digit value) :
    String.utf8EncodeChar c = [UInt8.ofNat c.toNat] ∧
      digitValue? (UInt8.ofNat c.toNat) = some value := by
  have each : ∀ c ∈ Escape.hexadecimalDigits, ∀ value < 16, c.toLower = digit value →
      String.utf8EncodeChar c = [UInt8.ofNat c.toNat] ∧
        digitValue? (UInt8.ofNat c.toNat) = some value :=
    Digits.forall_hexadecimalDigits (by decide +kernel)
  rw [digit_eq_digitChar value isDigit] at lowers
  have isIn := Digits.mem_of_toLower isDigit lowers
  rw [← digit_eq_digitChar value isDigit] at lowers
  exact each c isIn value isDigit lowers

theorem digitAt_eq_ok_iff {position : Nat} {byte : UInt8} {value : Nat} :
    digitAt position byte = .ok value ↔ digitValue? byte = some value := by
  unfold digitAt
  cases digitValue? byte <;> simp

/-! ## Pairs of digits -/

section Halves

variable (byte : UInt8)

theorem high_lt : byte.toNat / 16 < 16 := by
  have := byte.toNat_lt
  omega

theorem low_lt : byte.toNat % 16 < 16 :=
  Nat.mod_lt _ (by decide)

theorem ofNat_halves : UInt8.ofNat (byte.toNat / 16 * 16 + byte.toNat % 16) = byte := by
  rw [Nat.div_add_mod', UInt8.ofNat_toNat]

end Halves

theorem chars_of_decodePairs {units bytes : Bytes} {position : Nat}
    (decoded : decodePairs position units = .ok bytes) :
    Bytes.ofChars (units.map charOf) = units ∧
      (units.map charOf).map Char.toLower = encodeChars bytes := by
  fun_induction decodePairs position units generalizing bytes with
  | case1 => cases decoded; exact ⟨rfl, rfl⟩
  | case2 => cases decoded
  | case3 position high low rest induction =>
      rcases Except.bind_eq_ok.mp decoded with ⟨upper, isUpper, decoded⟩
      rcases Except.bind_eq_ok.mp decoded with ⟨lower, isLower, decoded⟩
      rcases Except.bind_eq_ok.mp decoded with ⟨others, isOthers, same⟩
      cases same
      rcases charOf_of_digitValue? (digitAt_eq_ok_iff.mp isUpper) with
        ⟨upper_lt, highLowers, highCode⟩
      rcases charOf_of_digitValue? (digitAt_eq_ok_iff.mp isLower) with
        ⟨lower_lt, lowLowers, lowCode⟩
      rcases induction isOthers with ⟨codes, lowers⟩
      have whole : (UInt8.ofNat (upper * 16 + lower)).toNat = upper * 16 + lower :=
        Nat.mod_eq_of_lt (by omega)
      constructor
      · simp only [List.map_cons, Bytes.ofChars, List.flatMap_cons, highCode, lowCode]
        exact congrArg (high :: low :: ·) codes
      · rw [encodeChars, whole, show (upper * 16 + lower) / 16 = upper by omega,
          show (upper * 16 + lower) % 16 = lower by omega]
        simp only [List.map_cons, highLowers, lowLowers, lowers]

theorem decodePairs_of_chars {chars : List Char} {bytes : Bytes}
    (lowers : chars.map Char.toLower = encodeChars bytes) (position : Nat) :
    (Bytes.ofChars chars).length = 2 * bytes.length ∧
      decodePairs position (Bytes.ofChars chars) = .ok bytes := by
  induction bytes generalizing chars position with
  | nil =>
      cases List.map_eq_nil_iff.mp lowers
      exact ⟨rfl, rfl⟩
  | cons byte bytes induction =>
      match chars, lowers with
      | [], lowers | [_], lowers => simp [encodeChars] at lowers
      | high :: low :: rest, lowers =>
          simp only [encodeChars, List.map_cons, List.cons.injEq] at lowers
          rcases lowers with ⟨isHigh, isLow, others⟩
          rcases utf8EncodeChar_of_toLower (high_lt byte) isHigh with ⟨highCode, highReads⟩
          rcases utf8EncodeChar_of_toLower (low_lt byte) isLow with ⟨lowCode, lowReads⟩
          rcases induction others (position + 2) with ⟨length, decoded⟩
          have units : Bytes.ofChars (high :: low :: rest) =
              UInt8.ofNat high.toNat :: UInt8.ofNat low.toNat :: Bytes.ofChars rest := by
            simp only [Bytes.ofChars, List.flatMap_cons, highCode, lowCode]
            rfl
          rw [units]
          constructor
          · simp only [List.length_cons, length]
            omega
          · rw [decodePairs, digitAt_eq_ok_iff.mpr highReads, digitAt_eq_ok_iff.mpr lowReads,
              decoded]
            exact congrArg (fun first => Except.ok (first :: bytes)) (ofNat_halves byte)

theorem decodeBytes_eq_ok_iff {chars : List Char} {bytes : Bytes} :
    decodeBytes (Bytes.ofChars chars) = .ok bytes ↔
      chars.map Char.toLower = encodeChars bytes := by
  constructor
  · intro decoded
    unfold decodeBytes at decoded
    split at decoded
    · cases decoded
    · -- The bytes are the code of digits, and so of no other characters.
      rcases chars_of_decodePairs decoded with ⟨codes, lowers⟩
      rw [Bytes.ofChars_injective codes] at lowers
      exact lowers
  · intro lowers
    rcases decodePairs_of_chars lowers 0 with ⟨length, decoded⟩
    rw [decodeBytes, if_neg (by omega), decoded]

theorem mem_encodeChars {bytes : Bytes} {c : Char} (isIn : c ∈ encodeChars bytes) :
    ∃ value < 16, c = digit value := by
  induction bytes with
  | nil => cases isIn
  | cons byte bytes induction =>
      simp only [encodeChars, List.mem_cons] at isIn
      rcases isIn with rfl | rfl | isIn
      · exact ⟨_, high_lt byte, rfl⟩
      · exact ⟨_, low_lt byte, rfl⟩
      · exact induction isIn

theorem mem_hexadecimalDigits_of_lowers {chars : List Char} {bytes : Bytes}
    (lowers : chars.map Char.toLower = encodeChars bytes) :
    ∀ c ∈ chars, c ∈ Escape.hexadecimalDigits := by
  intro c isIn
  have isLowered : c.toLower ∈ chars.map Char.toLower := List.mem_map_of_mem isIn
  rw [lowers] at isLowered
  rcases mem_encodeChars isLowered with ⟨value, isDigit, same⟩
  exact Digits.mem_of_toLower isDigit (same.trans (digit_eq_digitChar value isDigit))

theorem decodeMarked_eq_ok_iff {text : String} {bytes : Bytes} :
    decodeMarked text = .ok bytes ↔
      ∃ digits, Marked 'x' digits text.toList ∧ digits.map Char.toLower = encodeChars bytes := by
  unfold decodeMarked
  constructor
  · intro decoded
    exact ⟨_, marked_dropMarks _, decodeBytes_eq_ok_iff.mp decoded⟩
  · rintro ⟨digits, marked, lowers⟩
    have unmarked : 'x' ∉ digits := fun isIn =>
      absurd (mem_hexadecimalDigits_of_lowers lowers 'x' isIn) (by decide)
    rw [dropMarks_of_marked marked (dropMarks_of_not_mem unmarked)]
    exact decodeBytes_eq_ok_iff.mpr lowers

/-! ## Written bytes -/

def IsMarked (count : Nat) (text : String) : Prop :=
  ∃ digits : List Char, text.toList = '0' :: 'x' :: digits ∧ digits.length = count ∧
    ∀ c ∈ digits, c ∈ "0123456789abcdef".toList

theorem isMarked_encodeMarked (bytes : Bytes) :
    IsMarked (2 * bytes.length) (encodeMarked bytes) := by
  refine ⟨encodeChars bytes, String.toList_ofList, ?_, ?_⟩
  · induction bytes with
    | nil => rfl
    | cons byte bytes induction =>
        simp only [encodeChars, List.length_cons, induction]
        omega
  · intro c isIn
    have each : ∀ value < 16, digit value ∈ "0123456789abcdef".toList := by decide
    rcases mem_encodeChars isIn with ⟨value, isDigit, rfl⟩
    exact each value isDigit

theorem lowers_encodeChars (bytes : Bytes) :
    (encodeChars bytes).map Char.toLower = encodeChars bytes := by
  have each : ∀ value < 16, (digit value).toLower = digit value := by decide
  have kept : ∀ c ∈ encodeChars bytes, c.toLower = id c := by
    intro c isIn
    rcases mem_encodeChars isIn with ⟨value, isDigit, rfl⟩
    exact each value isDigit
  rw [List.map_congr_left kept, List.map_id]

theorem decodeMarked_encodeMarked (bytes : Bytes) :
    decodeMarked (encodeMarked bytes) = .ok bytes := by
  refine decodeMarked_eq_ok_iff.mpr ⟨encodeChars bytes, ?_, lowers_encodeChars bytes⟩
  rw [encodeMarked, String.toList_ofList]
  exact .mark .bare

end RedemptionRelay.Hex
