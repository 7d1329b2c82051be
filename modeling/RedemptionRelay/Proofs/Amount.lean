import RedemptionRelay.Amount
import RedemptionRelay.Proofs.Text.Blank
import RedemptionRelay.Proofs.Text.Digits

/-! # What texts of amounts stand for

What is left of the text between blanks and without underscores is a numeral.
Just such texts of numbers below the bound are read.
-/

namespace RedemptionRelay

namespace Amount

open Digits (DenoteSigned)

inductive Numeral (number : Nat) : List Char → Prop
  | decimal {chars : List Char} (denotes : DenoteSigned 10 chars number) : Numeral number chars
  | hexadecimal {chars : List Char} (denotes : DenoteSigned 16 chars number) :
      Numeral number ('0' :: 'x' :: chars)

/-- A hexadecimal mark is no part of decimal digits, since `x` is none of them. -/
theorem ne_marked {chars : List Char} {number : Nat} (denotes : DenoteSigned 10 chars number)
    (rest : List Char) : chars ≠ '0' :: 'x' :: rest := by
  rintro rfl
  exact absurd (denotes.mem (by decide) 'x' (by simp)) (by decide)

theorem Numeral.unique {number other : Nat} {chars : List Char} (numeral : Numeral number chars)
    (numeralOther : Numeral other chars) : number = other := by
  cases numeral with
  | decimal denotes =>
      cases numeralOther with
      | decimal denotesOther => exact denotes.unique (by decide) denotesOther
      | hexadecimal _ => exact absurd rfl (ne_marked denotes _)
  | hexadecimal denotes =>
      cases numeralOther with
      | decimal denotesOther => exact absurd rfl (ne_marked denotesOther _)
      | hexadecimal denotesOther => exact denotes.unique (by decide) denotesOther

theorem Numeral.isBlank_eq_false {number : Nat} {chars : List Char}
    (numeral : Numeral number chars) : ∀ c ∈ chars, Blank.isBlank c = false := by
  have solid : ∀ c ∈ Escape.hexadecimalDigits, Blank.isBlank c = false :=
    Digits.forall_hexadecimalDigits (by decide)
  have each {base : Nat} (small : base ≤ 16) {chars : List Char}
      (denotes : DenoteSigned base chars number) : ∀ c ∈ chars, Blank.isBlank c = false := by
    intro c isIn
    rcases denotes.mem small c isIn with rfl | digit
    · rfl
    · exact solid c digit
  cases numeral with
  | decimal denotes => exact each (by decide) denotes
  | hexadecimal denotes =>
      exact List.forall_mem_cons.mpr
        ⟨rfl, List.forall_mem_cons.mpr ⟨rfl, each (by decide) denotes⟩⟩

/-- Blanks around a numeral and underscores in it mean nothing. -/
inductive Spelled (number : Nat) : List Char → Prop
  | numeral {before body after : List Char} (blankBefore : ∀ c ∈ before, Blank.isBlank c = true)
      (blankAfter : ∀ c ∈ after, Blank.isBlank c = true)
      (numeral : Numeral number (body.filter (· ≠ '_'))) :
      Spelled number (before ++ body ++ after)

theorem parseChars?_eq_some_iff {chars : List Char} {number : Nat} :
    parseChars? chars = some number ↔ number < tokenBound ∧ Numeral number chars := by
  have reads {base : Nat} (small : base ≤ 16) {digits : List Char} {value : Nat} :
      Digits.readSigned? base digits = some value ↔ DenoteSigned base digits value :=
    Digits.readSigned?_eq_some_iff small
  unfold parseChars?
  dsimp only
  constructor
  · intro parsed
    split at parsed
    · next value found =>
        split at parsed
        · next fits =>
            cases parsed
            refine ⟨fits, ?_⟩
            split at found
            · exact .hexadecimal ((reads (by decide)).mp found)
            · exact .decimal ((reads (by decide)).mp found)
        · cases parsed
    · cases parsed
  · rintro ⟨fits, numeral⟩
    cases numeral with
    | hexadecimal denotes =>
        simp only [(reads (by decide)).mpr denotes]
        exact if_pos fits
    | decimal denotes =>
        have unmarked : ∀ rest, chars ≠ '0' :: 'x' :: rest := ne_marked denotes
        simp only [(reads (by decide)).mpr denotes]
        exact if_pos fits

theorem parse?_eq_some_iff {text : String} {number : Nat} :
    parse? text = some number ↔ number < tokenBound ∧ Spelled number text.toList := by
  rw [parse?, parseChars?_eq_some_iff]
  refine and_congr_right fun _ => ?_
  constructor
  · intro numeral
    rcases (Blank.pads_trimChars text.toList).around with
      ⟨before, after, whole, blankBefore, blankAfter⟩
    rw [whole]
    exact .numeral blankBefore blankAfter numeral
  · intro spelled
    generalize text.toList = chars at spelled
    cases spelled with
    | @numeral before body after blankBefore blankAfter numeral =>
        have solid : ∀ c ∈ body, Blank.isBlank c = false := by
          intro c isIn
          by_cases underscore : c = '_'
          · rw [underscore]
            rfl
          · have kept : c ∈ body.filter (· ≠ '_') :=
              List.mem_filter.mpr ⟨isIn, decide_eq_true underscore⟩
            exact numeral.isBlank_eq_false c kept
        have pads : Blank.Pads body (before ++ body ++ after) :=
          ⟨.of_solid solid, before, after, rfl, blankBefore, blankAfter⟩
        rw [pads.trimChars_eq]
        exact numeral

end Amount

end RedemptionRelay
