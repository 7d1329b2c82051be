import Mathlib.Logic.ExistsUnique
import RedemptionRelay.Proofs.Amount

/-! # Which texts are amounts

The blanks around a text are taken away first and the underscores in it after
that, so that a blank behind an underscore stays. What is left has to be a
numeral of a number below the bound. The numbers that fit can be written in
both bases, behind zeros and with underscores anywhere; the numeral of a larger
number is refused and does not stand for another one.
-/

namespace RedemptionRelay.Amount

theorem tokenBound_eq : tokenBound = 2 ^ 128 := by
  decide

/-! ## What is left of a text -/

inductive Strips (text : String) : List Char → Prop
  | trimmed {core : List Char} (pads : Blank.Pads core text.toList) :
      Strips text (core.filter (· ≠ '_'))

section

variable {text : String} {bare : List Char}

theorem strips_iff : Strips text bare ↔ bare = (Blank.trimChars text.toList).filter (· ≠ '_') := by
  constructor
  · rintro ⟨pads⟩
    rw [pads.trimChars_eq]
  · rintro rfl
    exact .trimmed (Blank.pads_trimChars text.toList)

theorem existsUnique_strips (text : String) : ∃! bare, Strips text bare :=
  ⟨_, strips_iff.mpr rfl, fun _ strips => strips_iff.mp strips⟩

variable (strips : Strips text bare) {number : Nat}
include strips

theorem Strips.parse?_eq_some_iff :
    parse? text = some number ↔ number < 2 ^ 128 ∧ Numeral number bare := by
  rw [parse?, ← strips_iff.mp strips, parseChars?_eq_some_iff, tokenBound_eq]

theorem Strips.parse?_of_numeral (numeral : Numeral number bare) (large : 2 ^ 128 ≤ number) :
    parse? text = none := by
  refine Option.eq_none_iff_forall_ne_some.mpr fun other reads => ?_
  rcases strips.parse?_eq_some_iff.mp reads with ⟨fits, numeralOther⟩
  rw [numeralOther.unique numeral] at fits
  exact absurd large (Nat.not_le_of_lt fits)

end

/-! ## Ways to write a number -/

/-- The digits of the number behind any zeros; hexadecimal ones are of either
case and have their mark before the zeros. -/
inductive Written (number : Nat) : List Char → Prop
  | decimal (zeros : Nat) : Written number (List.replicate zeros '0' ++ Nat.toDigits 10 number)
  | hexadecimal (zeros : Nat) {digits : List Char}
      (lowers : digits.map Char.toLower = Nat.toDigits 16 number) :
      Written number ('0' :: 'x' :: (List.replicate zeros '0' ++ digits))

theorem Written.numeral {number : Nat} {chars : List Char} (written : Written number chars) :
    Numeral number chars := by
  cases written with
  | decimal zeros =>
      have denotes := Digits.denote_toDigits number
      exact .decimal (.bare (denotes.zeros (by decide) zeros))
  | hexadecimal zeros lowers =>
      have denotes := Digits.denote_of_lowers (by decide) lowers
      exact .hexadecimal (.bare (denotes.zeros (by decide) zeros))

theorem parse?_of_written {number : Nat} {before body after : List Char} (fits : number < 2 ^ 128)
    (blankBefore : ∀ c ∈ before, Blank.isBlank c = true)
    (blankAfter : ∀ c ∈ after, Blank.isBlank c = true)
    (written : Written number (body.filter (· ≠ '_'))) :
    parse? (String.ofList (before ++ body ++ after)) = some number := by
  rw [parse?_eq_some_iff, String.toList_ofList, tokenBound_eq]
  exact ⟨fits, .numeral blankBefore blankAfter written.numeral⟩

/-- Just the numerals below the bound are read, and as what they stand for. -/
theorem numerals_read :
    (∀ text, ∃! bare, Strips text bare) ∧
    (∀ text bare, Strips text bare → ∀ number,
      parse? text = some number ↔ number < 2 ^ 128 ∧ Numeral number bare) ∧
    (∀ number before body after, number < 2 ^ 128 →
      (∀ c ∈ before, Blank.isBlank c = true) → (∀ c ∈ after, Blank.isBlank c = true) →
      Written number (body.filter (· ≠ '_')) →
        parse? (String.ofList (before ++ body ++ after)) = some number) ∧
    ∀ text bare number, Strips text bare → Numeral number bare → 2 ^ 128 ≤ number →
      parse? text = none :=
  ⟨existsUnique_strips, fun _ _ strips _ => strips.parse?_eq_some_iff,
    fun _ _ _ _ fits blankBefore blankAfter => parse?_of_written fits blankBefore blankAfter,
    fun _ _ _ strips numeral => strips.parse?_of_numeral numeral⟩

/-- Digits of both cases among underscores, the first number that is too large,
and a blank that an underscore keeps in its text. -/
theorem numerals_read_of_padded_text :
    parse? "\u2003_0x_0fF_ \n" = some 255 ∧
      parse? "0340282366920938463463374607431768211456" = none ∧ parse? "_ 5" = none := by
  rcases numerals_read with ⟨-, reads, readsWritten, refuses⟩
  refine ⟨?_, ?_, ?_⟩
  · let body := ['_', '0', 'x', '_', '0', 'f', 'F', '_']
    have whole : String.ofList (['\u2003'] ++ body ++ [' ', '\n']) = "\u2003_0x_0fF_ \n" := by
      decide +kernel
    have written : Written 255 (body.filter (· ≠ '_')) :=
      @Written.hexadecimal 255 1 ['f', 'F'] (by decide)
    have blankBefore : ∀ c ∈ ['\u2003'], Blank.isBlank c = true :=
      List.forall_mem_singleton.mpr (by decide)
    have blankAfter : ∀ c ∈ [' ', '\n'], Blank.isBlank c = true :=
      List.forall_mem_cons.mpr ⟨by decide, List.forall_mem_singleton.mpr (by decide)⟩
    rw [← whole]
    exact readsWritten 255 _ body _ (by decide) blankBefore blankAfter written
  · have strips : Strips "0340282366920938463463374607431768211456"
        (List.replicate 1 '0' ++ Nat.toDigits 10 (2 ^ 128)) :=
      strips_iff.mpr (by decide +kernel)
    exact refuses _ _ (2 ^ 128) strips (Written.decimal 1).numeral (by decide)
  · refine Option.eq_none_iff_forall_ne_some.mpr fun number found => ?_
    have strips : Strips "_ 5" [' ', '5'] := strips_iff.mpr (by decide +kernel)
    have numeral := ((reads _ _ strips number).mp found).2
    exact absurd (numeral.isBlank_eq_false ' ' (by decide)) (by decide)

end RedemptionRelay.Amount
