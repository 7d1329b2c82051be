import Mathlib.Data.List.Basic
import Mathlib.Data.List.Induction
import Mathlib.Data.Nat.Digits.Defs
import Mathlib.Tactic.Ring
import RedemptionRelay.Proofs.Http.Form
import RedemptionRelay.Proofs.Json.Number

/-! # What digits stand for

Digits stand for a number by their places, in either letter case. Just those are
read that stand for something, and what is read is what they stand for.
-/

namespace RedemptionRelay

namespace Digits

/-- The digits stand for the number, the first of them in the highest place. -/
def Denote (base : Nat) (digits : List Char) (number : Nat) : Prop :=
  ∃ values : List Nat, values ≠ [] ∧ (∀ value ∈ values, value < base) ∧
    digits.map Char.toLower = values.map Nat.digitChar ∧
      Nat.ofDigits base values.reverse = number

/-! ## One digit -/

theorem digitValue?_of_base {base : Nat} (small : base ≤ 16) {c : Char} {value : Nat} :
    digitValue? base c = some value ↔ value < base ∧ digitValue? 16 c = some value := by
  have codes : '0'.toNat = 48 ∧ 'a'.toNat = 97 ∧ 'A'.toNat = 65 := ⟨rfl, rfl, rfl⟩
  unfold digitValue?
  dsimp only
  split_ifs <;> simp <;> omega

theorem forall_hexadecimalDigits {P : Char → Prop} [DecidablePred P]
    (checked : Escape.hexadecimalDigits.all (decide <| P ·) = true) :
    ∀ c ∈ Escape.hexadecimalDigits, P c :=
  fun c isIn => of_decide_eq_true (List.all_eq_true.mp checked c isIn)

theorem value_of_mem : ∀ c ∈ Escape.hexadecimalDigits,
    ∃ value < 16, digitValue? 16 c = some value ∧ c.toLower = Nat.digitChar value :=
  forall_hexadecimalDigits (by decide +kernel)

theorem mem_of_toLower {c : Char} {value : Nat} (isDigit : value < 16)
    (lowers : c.toLower = Nat.digitChar value) : c ∈ Escape.hexadecimalDigits := by
  by_cases ascii : c.toNat < 0x80
  · have each : ∀ code < 0x80, ∀ value < 16,
        (Char.ofNat code).toLower = Nat.digitChar value →
          Char.ofNat code ∈ Escape.hexadecimalDigits := by
      decide +kernel
    have isIn := each c.toNat ascii value isDigit
    rw [Char.ofNat_toNat] at isIn
    exact isIn lowers
  · have same : c.toLower = c := by
      unfold Char.toLower
      exact dif_neg fun range => ascii (Nat.lt_of_le_of_lt range.2 (by decide))
    have each : ∀ value < 16, Nat.digitChar value ∈ Escape.hexadecimalDigits := by decide
    rw [← same, lowers]
    exact each value isDigit

theorem digitValue?_eq_some_iff {base : Nat} (small : base ≤ 16) {c : Char} {value : Nat} :
    digitValue? base c = some value ↔ value < base ∧ c.toLower = Nat.digitChar value := by
  have distinct : ∀ first < 16, ∀ second < 16, Nat.digitChar first = Nat.digitChar second →
      first = second := by
    decide
  rw [digitValue?_of_base small]
  refine and_congr_right fun below => ?_
  constructor
  · intro reads
    have isDigit : isHexadecimal c = true := by
      rw [isHexadecimal, reads]
      rfl
    rcases value_of_mem c (Escape.mem_of_isHexadecimal isDigit) with ⟨_, -, reads', lowers⟩
    rw [reads] at reads'
    cases reads'
    exact lowers
  · intro lowers
    have isDigit : value < 16 := by omega
    rcases value_of_mem c (mem_of_toLower isDigit lowers) with ⟨other, small', reads, lowers'⟩
    rw [reads, distinct value isDigit other small' (lowers.symm.trans lowers')]

/-! ## Many digits -/

section

variable {base : Nat} (small : base ≤ 16) {digits : List Char} {number : Nat}
include small

theorem readAfter?_eq_some_iff {leading : Nat} :
    readAfter? base leading digits = some number ↔
      ∃ values : List Nat, (∀ value ∈ values, value < base) ∧
        digits.map Char.toLower = values.map Nat.digitChar ∧
          leading * base ^ values.length + Nat.ofDigits base values.reverse = number := by
  induction digits generalizing leading with
  | nil =>
      constructor
      · intro reads
        exact ⟨[], nofun, rfl, by simpa using Option.some.inj reads⟩
      · rintro ⟨values, -, same, total⟩
        cases List.map_eq_nil_iff.mp same.symm
        exact congrArg some (by simpa using total)
  | cons c rest induction =>
      constructor
      · intro reads
        rw [readAfter?] at reads
        split at reads
        · next value reads' =>
            rcases (digitValue?_eq_some_iff small).mp reads' with ⟨below, lowers⟩
            rcases induction.mp reads with ⟨values, others, same, total⟩
            refine ⟨value :: values, List.forall_mem_cons.mpr ⟨below, others⟩, ?_, ?_⟩
            · rw [List.map_cons, List.map_cons, lowers, same]
            · rw [Nat.ofDigits_reverse_cons, List.length_cons, ← total]
              ring
        · cases reads
      · rintro ⟨values, all, same, total⟩
        cases values with
        | nil => cases same
        | cons value values =>
            rcases List.forall_mem_cons.mp all with ⟨below, others⟩
            rcases List.cons.inj same with ⟨lowers, same⟩
            rw [readAfter?, (digitValue?_eq_some_iff small).mpr ⟨below, lowers⟩]
            refine induction.mpr ⟨values, others, same, ?_⟩
            rw [← total, Nat.ofDigits_reverse_cons, List.length_cons]
            ring

theorem read?_eq_some_iff : read? base digits = some number ↔ Denote base digits number := by
  cases digits with
  | nil =>
      refine ⟨nofun, ?_⟩
      rintro ⟨values, filled, -, same, -⟩
      exact absurd (List.map_eq_nil_iff.mp same.symm) filled
  | cons c rest =>
      rw [read?, readAfter?_eq_some_iff small]
      · constructor
        · rintro ⟨values, all, same, total⟩
          refine ⟨values, ?_, all, same, by simpa using total⟩
          rintro rfl
          cases same
        · rintro ⟨values, -, all, same, total⟩
          exact ⟨values, all, same, by simpa using total⟩
      · exact nofun

end

theorem denote_toDigits (number : Nat) : Denote 10 (Nat.toDigits 10 number) number :=
  (read?_eq_some_iff (by decide)).mp (read?_toDigits number)

theorem repr_injective : Function.Injective Nat.repr := by
  intro left right same
  rw [Nat.repr_eq_ofList_toDigits, Nat.repr_eq_ofList_toDigits] at same
  have readsLeft := read?_toDigits left
  rw [String.ofList_injective same, read?_toDigits right] at readsLeft
  exact (Option.some.inj readsLeft).symm

section

variable {base : Nat} {digits : List Char} {number : Nat}

theorem Denote.toLower_of_mem (denotes : Denote base digits number) {c : Char}
    (isIn : c ∈ digits) : ∃ value < base, c.toLower = Nat.digitChar value := by
  rcases denotes with ⟨values, -, all, same, -⟩
  have isLowered : c.toLower ∈ digits.map Char.toLower := List.mem_map_of_mem isIn
  rw [same] at isLowered
  rcases List.mem_map.mp isLowered with ⟨value, isValue, lowers⟩
  exact ⟨value, all value isValue, lowers.symm⟩

theorem Denote.mem_hexadecimalDigits (denotes : Denote base digits number) (small : base ≤ 16) :
    ∀ c ∈ digits, c ∈ Escape.hexadecimalDigits := by
  intro c isIn
  rcases denotes.toLower_of_mem isIn with ⟨value, below, lowers⟩
  exact mem_of_toLower (Nat.lt_of_lt_of_le below small) lowers

theorem exists_denote_iff :
    (∃ number, Denote 16 digits number) ↔
      digits ≠ [] ∧ ∀ c ∈ digits, isHexadecimal c = true := by
  constructor
  · rintro ⟨number, denotes⟩
    constructor
    · rintro rfl
      rcases denotes with ⟨values, filled, -, same, -⟩
      exact filled (List.map_eq_nil_iff.mp same.symm)
    · intro c isIn
      rcases value_of_mem c (denotes.mem_hexadecimalDigits (by decide) c isIn) with ⟨_, -, reads, -⟩
      rw [isHexadecimal, reads]
      rfl
  · rintro ⟨filled, all⟩
    let value (c : Char) : Nat := (digitValue? 16 c).getD 0
    have each : ∀ c ∈ digits, value c < 16 ∧ c.toLower = Nat.digitChar (value c) := by
      intro c isIn
      rcases value_of_mem c (Escape.mem_of_isHexadecimal (all c isIn)) with
        ⟨found, below, reads, lowers⟩
      have same : value c = found := by
        dsimp only [value]
        rw [reads]
        rfl
      rw [same]
      exact ⟨below, lowers⟩
    refine ⟨_, digits.map value, List.map_eq_nil_iff.not.mpr filled, ?_, ?_, rfl⟩
    · exact List.forall_mem_map.mpr fun c isIn => (each c isIn).1
    · rw [List.map_map]
      exact List.map_congr_left fun c isIn => (each c isIn).2

theorem Denote.isDigit (denotes : Denote 10 digits number) : ∀ c ∈ digits, c.isDigit = true := by
  have each : ∀ c ∈ Escape.hexadecimalDigits, ∀ value < 10, c.toLower = Nat.digitChar value →
      c.isDigit = true :=
    forall_hexadecimalDigits (by decide +kernel)
  intro c isIn
  rcases denotes.toLower_of_mem isIn with ⟨value, below, lowers⟩
  exact each c (denotes.mem_hexadecimalDigits (by decide) c isIn) value below lowers

end

/-! ## Written digits -/

theorem exists_values_toDigits {base : Nat} (several : 1 < base) (number : Nat) :
    ∃ values : List Nat, values ≠ [] ∧ (∀ value ∈ values, value < base) ∧
      Nat.toDigits base number = values.map Nat.digitChar ∧
        Nat.ofDigits base values.reverse = number := by
  induction number using Nat.strongRecOn with
  | ind number induction =>
      rw [Nat.toDigits_eq_if several]
      split
      · next below => exact ⟨[number], nofun, by simpa using below, rfl, by simp⟩
      · next large =>
          have positive : 0 < number := by omega
          rcases induction (number / base) (Nat.div_lt_self positive several) with
            ⟨values, -, all, same, total⟩
          refine ⟨values ++ [number % base], by simp, ?_, ?_, ?_⟩
          · have last : number % base < base := Nat.mod_lt _ (by omega)
            simpa [or_imp, forall_and, last] using all
          · rw [same, List.map_append]
            rfl
          · rw [List.reverse_concat, Nat.ofDigits_cons, total, Nat.mod_add_div]

theorem denote_of_lowers {base : Nat} (several : 1 < base) {digits : List Char} {number : Nat}
    (lowers : digits.map Char.toLower = Nat.toDigits base number) :
    Denote base digits number := by
  rw [Denote, lowers]
  exact exists_values_toDigits several number

section

variable {digits : List Char} {number : Nat}

theorem map_toLower_digitChar {values : List Nat} (all : ∀ value ∈ values, value < 16) :
    (values.map Nat.digitChar).map Char.toLower = values.map Nat.digitChar := by
  have each : ∀ value < 16, (Nat.digitChar value).toLower = Nat.digitChar value := by decide
  rw [List.map_map]
  exact List.map_congr_left fun value isValue => each value (all value isValue)

theorem map_toLower_toDigits (number : Nat) :
    (Nat.toDigits 16 number).map Char.toLower = Nat.toDigits 16 number := by
  have several : 1 < 16 := by decide
  rcases exists_values_toDigits several number with ⟨values, -, all, same, -⟩
  rw [same, map_toLower_digitChar all]

theorem Denote.map_toLower_map_toLower (denotes : Denote 16 digits number) :
    (digits.map Char.toLower).map Char.toLower = digits.map Char.toLower := by
  rcases denotes with ⟨values, -, all, same, -⟩
  rw [same, map_toLower_digitChar all]

theorem Denote.map_toLower (denotes : Denote 16 digits number) :
    Denote 16 (digits.map Char.toLower) number := by
  rw [Denote, denotes.map_toLower_map_toLower]
  exact denotes

theorem Denote.mem_lowercase (denotes : Denote 16 digits number) :
    ∀ c ∈ digits.map Char.toLower, c ∈ "0123456789abcdef".toList := by
  have each : ∀ value < 16, Nat.digitChar value ∈ "0123456789abcdef".toList := by decide
  intro c isIn
  rcases List.mem_map.mp isIn with ⟨c, isDigit, rfl⟩
  rcases denotes.toLower_of_mem isDigit with ⟨value, below, lowers⟩
  exact lowers ▸ each value below

theorem Denote.ne_nil (denotes : Denote 16 digits number) : digits ≠ [] :=
  (exists_denote_iff.mp ⟨number, denotes⟩).1

theorem Denote.unique {base other : Nat} (small : base ≤ 16) (denotes : Denote base digits number)
    (denotesOther : Denote base digits other) : number = other := by
  rw [← read?_eq_some_iff small] at denotes denotesOther
  exact Option.some.inj (denotes.symm.trans denotesOther)

end

/-! ## Leading zeros -/

theorem Denote.zeros {base : Nat} (positive : 0 < base) {digits : List Char} {number : Nat}
    (denotes : Denote base digits number) (count : Nat) :
    Denote base (List.replicate count '0' ++ digits) number := by
  rcases denotes with ⟨values, filled, all, same, total⟩
  refine ⟨List.replicate count 0 ++ values, List.append_ne_nil_of_right_ne_nil _ filled, ?_, ?_, ?_⟩
  · rw [List.forall_mem_append]
    exact ⟨fun value isZero => List.eq_of_mem_replicate isZero ▸ positive, all⟩
  · rw [List.map_append, List.map_append, List.map_replicate, List.map_replicate, same]
    rfl
  · rw [List.reverse_append, List.reverse_replicate, Nat.ofDigits_append_replicate_zero, total]

theorem toDigits_ofDigits {base : Nat} (several : 1 < base) {values : List Nat}
    (all : ∀ value ∈ values, value < base) (filled : values ≠ [])
    (leading : values.head? ≠ some 0) :
    Nat.toDigits base (Nat.ofDigits base values.reverse) = values.map Nat.digitChar := by
  induction values using List.reverseRecOn with
  | nil => exact absurd rfl filled
  | append_singleton front last induction =>
      have below : last < base := all last (by simp)
      rw [List.reverse_concat, Nat.ofDigits_cons, List.map_append]
      cases front with
      | nil => simp [Nat.toDigits_of_lt_base below]
      | cons first front =>
          have positive : 0 < Nat.ofDigits base (first :: front).reverse := by
            rw [Nat.ofDigits_reverse_cons]
            have notZero : 0 < first := Nat.pos_of_ne_zero fun zero => leading (by simp [zero])
            have power : 0 < base ^ front.length := Nat.pow_pos (by omega)
            have := Nat.mul_pos power notZero
            omega
          have before := induction (fun value isIn => all value (List.mem_append_left _ isIn)) nofun
            (by simpa using leading)
          have large : ¬ last + base * Nat.ofDigits base (first :: front).reverse < base := by
            have := Nat.le_mul_of_pos_right base positive
            omega
          rw [Nat.toDigits_eq_if several, if_neg large, Nat.add_mul_div_left _ _ (by omega),
            Nat.div_eq_of_lt below, Nat.zero_add, before, Nat.add_mul_mod_self_left,
            Nat.mod_eq_of_lt below]
          rfl

theorem head?_toDigits {base number : Nat} (several : 1 < base) (small : base ≤ 16)
    (positive : 0 < number) : (Nat.toDigits base number).head? ≠ some '0' := by
  induction number using Nat.strongRecOn with
  | ind number induction =>
      rw [Nat.toDigits_eq_if several]
      split
      · next below =>
          have each : ∀ value < 16, 0 < value → Nat.digitChar value ≠ '0' := by decide
          simpa using each number (Nat.lt_of_lt_of_le below small) positive
      · next large =>
          have before := induction (number / base) (Nat.div_lt_self positive several)
            (Nat.div_pos (Nat.le_of_not_lt large) (by omega))
          intro isZero
          rw [List.head?_append_of_ne_nil _ Nat.toDigits_ne_nil] at isZero
          exact before isZero

/-! ## Signed digits -/

/-- A plus sign may stand before the digits. -/
inductive DenoteSigned (base : Nat) : List Char → Nat → Prop
  | bare {digits : List Char} {number : Nat} (denotes : Denote base digits number) :
      DenoteSigned base digits number
  | plus {digits : List Char} {number : Nat} (denotes : Denote base digits number) :
      DenoteSigned base ('+' :: digits) number

theorem readSigned?_eq_some_iff {base : Nat} (small : base ≤ 16) {chars : List Char}
    {number : Nat} :
    readSigned? base chars = some number ↔ DenoteSigned base chars number := by
  constructor
  · intro reads
    unfold readSigned? at reads
    split at reads
    · exact .plus ((read?_eq_some_iff small).mp reads)
    · exact .bare ((read?_eq_some_iff small).mp reads)
  · intro denotes
    cases denotes with
    | plus denotes => exact (read?_eq_some_iff small).mpr denotes
    | bare denotes =>
        unfold readSigned?
        split
        · exact absurd (denotes.mem_hexadecimalDigits small '+' List.mem_cons_self) (by decide)
        · exact (read?_eq_some_iff small).mpr denotes

theorem DenoteSigned.unique {base : Nat} (small : base ≤ 16) {chars : List Char}
    {number other : Nat} (denotes : DenoteSigned base chars number)
    (denotesOther : DenoteSigned base chars other) : number = other := by
  rw [← readSigned?_eq_some_iff small] at denotes denotesOther
  exact Option.some.inj (denotes.symm.trans denotesOther)

theorem DenoteSigned.mem {base : Nat} (small : base ≤ 16) {chars : List Char} {number : Nat}
    (denotes : DenoteSigned base chars number) :
    ∀ c ∈ chars, c = '+' ∨ c ∈ Escape.hexadecimalDigits := by
  cases denotes with
  | bare denotes => exact fun c isIn => .inr (denotes.mem_hexadecimalDigits small c isIn)
  | plus denotes =>
      exact List.forall_mem_cons.mpr ⟨.inl rfl,
        fun c isIn => .inr (denotes.mem_hexadecimalDigits small c isIn)⟩

end Digits

end RedemptionRelay
