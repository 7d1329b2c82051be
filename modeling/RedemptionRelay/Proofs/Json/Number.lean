import Mathlib.Data.List.TakeWhile
import RedemptionRelay.Json.Shape
import RedemptionRelay.Json.Value

/-! # Numbers as they are written

A literal is read back as it stands, up to the mark that follows it in a
document. Decimal digits denote the number that they were written for.
-/

namespace RedemptionRelay

/-! ## Digits -/

namespace Digits

theorem digitValue?_of_isDigit {c : Char} (digit : c.isDigit = true) :
    digitValue? 10 c = some (c.toNat - '0'.toNat) := by
  have bounds := Char.isDigit_iff_toNat.mp digit
  have within : '0' ≤ c ∧ c ≤ '9' := bounds
  have below : c.toNat - '0'.toNat < 10 := by
    have upper : c.toNat ≤ 57 := bounds.2
    have zero : '0'.toNat = 48 := rfl
    omega
  simp only [digitValue?, if_pos within, if_pos below]

theorem readAfter?_of_isDigit {digits : List Char}
    (all : ∀ c ∈ digits, c.isDigit = true) (leading : Nat) :
    readAfter? 10 leading digits = some (Nat.ofDigitChars 10 digits leading) := by
  induction digits generalizing leading with
  | nil => rfl
  | cons c rest induction =>
      rcases List.forall_mem_cons.mp all with ⟨digit, others⟩
      rw [readAfter?, digitValue?_of_isDigit digit]
      dsimp only
      rw [induction others, Nat.ofDigitChars_cons, Nat.mul_comm]

theorem read?_toDigits (value : Nat) : read? 10 (Nat.toDigits 10 value) = some value := by
  have all : ∀ c ∈ Nat.toDigits 10 value, c.isDigit = true := fun c member =>
    Nat.isDigit_of_mem_toDigits (by decide) (by decide) member
  have denotes := readAfter?_of_isDigit all 0
  rw [Nat.ofDigitChars_ten_toDigits] at denotes
  cases digits : Nat.toDigits 10 value with
  | nil => exact absurd digits Nat.toDigits_ne_nil
  | cons c rest => rw [← denotes, digits]; rfl

end Digits

/-! ## Literals -/

namespace Json

/-- What can follow a value inside a document, or behind it. -/
def Closes (rest : List Char) : Prop :=
  ∀ c ∈ rest.head?, c = ',' ∨ c = ']' ∨ c = '\x7d'

theorem closes_nil : Closes [] :=
  fun _ impossible => nomatch impossible

theorem closes_cons {c : Char} {rest : List Char} (mark : c = ',' ∨ c = ']' ∨ c = '\x7d') :
    Closes (c :: rest) := by
  rintro _ ⟨⟩
  exact mark

section Append

variable {chars rest left digits : List Char} (closes : Closes rest)
include closes

theorem takeDigits_append :
    takeDigits (chars ++ rest) = ((takeDigits chars).1, (takeDigits chars).2 ++ rest) := by
  unfold takeDigits
  induction chars with
  | nil =>
      cases rest with
      | nil => rfl
      | cons c rest => rcases closes c rfl with rfl | rfl | rfl <;> rfl
  | cons c chars induction =>
      simp only [List.cons_append, List.takeWhile_cons, List.dropWhile_cons]
      cases c.isDigit with
      | true => simpa using induction
      | false => rfl

theorem readWhole_append (read : readWhole chars = some (digits, left)) :
    readWhole (chars ++ rest) = some (digits, left ++ rest) := by
  unfold readWhole at read
  split at read
  · cases read
    rfl
  · next notZero =>
      have goesOn : chars ≠ [] := by
        rintro rfl
        cases read
      rcases List.exists_cons_of_ne_nil goesOn with ⟨c, others, rfl⟩
      unfold readWhole
      split
      · next same => exact absurd (List.cons.inj same).1 fun zero => notZero others (by rw [zero])
      · dsimp only at read ⊢
        rw [takeDigits_append closes]
        split at read
        · cases read
        · next some => cases read; rw [if_neg some]

theorem readFraction_append (read : readFraction chars = some (digits, left)) :
    readFraction (chars ++ rest) = some (digits, left ++ rest) := by
  cases chars with
  | nil =>
      cases read
      cases rest with
      | nil => rfl
      | cons c rest => rcases closes c rfl with rfl | rfl | rfl <;> rfl
  | cons c chars =>
      unfold readFraction at read
      split at read
      · next point =>
          cases point
          dsimp only at read
          simp only [List.cons_append, readFraction]
          rw [takeDigits_append closes]
          split at read
          · cases read
          · next some => cases read; rw [if_neg some]
      · next noPoint =>
          cases read
          unfold readFraction
          split
          · next point => exact (noPoint chars ((List.cons.inj point).1 ▸ rfl)).elim
          · rfl

theorem readExponentSign_append :
    readExponentSign (chars ++ rest) =
      ((readExponentSign chars).1, (readExponentSign chars).2 ++ rest) := by
  cases chars with
  | nil =>
      cases rest with
      | nil => rfl
      | cons c rest => rcases closes c rfl with rfl | rfl | rfl <;> rfl
  | cons c chars =>
      unfold readExponentSign
      by_cases plus : c = '+'
      · subst plus; rfl
      · by_cases minus : c = '-'
        · subst minus; rfl
        · simp [plus, minus]

theorem readExponent_append (read : readExponent chars = some (digits, left)) :
    readExponent (chars ++ rest) = some (digits, left ++ rest) := by
  cases chars with
  | nil =>
      cases read
      cases rest with
      | nil => rfl
      | cons c rest => rcases closes c rfl with rfl | rfl | rfl <;> rfl
  | cons mark chars =>
      simp only [List.cons_append, readExponent] at read ⊢
      split at read
      · next isMark =>
          rw [if_pos isMark, readExponentSign_append closes]
          dsimp only
          rw [takeDigits_append closes]
          split at read
          · cases read
          · next some => cases read; rw [if_neg some]
      · next noMark =>
          cases read
          rw [if_neg noMark]
          rfl

theorem readSign_append :
    readSign (chars ++ rest) = ((readSign chars).1, (readSign chars).2 ++ rest) := by
  cases chars with
  | nil =>
      cases rest with
      | nil => rfl
      | cons c rest => rcases closes c rfl with rfl | rfl | rfl <;> rfl
  | cons c chars =>
      unfold readSign
      by_cases minus : c = '-'
      · subst minus; rfl
      · simp [minus]

theorem readNumber_append {literal : String}
    (read : readNumber chars = some (literal, left)) :
    readNumber (chars ++ rest) = some (literal, left ++ rest) := by
  simp only [readNumber, Option.bind_eq_bind, Option.bind_eq_some_iff, Option.pure_def,
    Option.some.injEq, Prod.mk.injEq] at read
  rcases read with ⟨⟨whole, afterWhole⟩, readsWhole, ⟨fraction, afterFraction⟩, readsFraction,
    ⟨exponent, afterExponent⟩, readsExponent, rfl, rfl⟩
  simp only [readNumber, readSign_append closes, readWhole_append closes readsWhole,
    readFraction_append closes readsFraction, readExponent_append closes readsExponent,
    Option.bind_eq_bind, Option.bind_some, Option.pure_def]

end Append

def IsNumeral (literal : String) : Prop :=
  readNumber literal.toList = some (literal, [])

theorem numberLiteral?_eq_some_iff {literal kept : String} :
    numberLiteral? literal = some kept ↔ readNumber literal.toList = some (kept, []) := by
  unfold numberLiteral?
  split
  · next reads => simp [reads]
  · next other =>
      constructor
      · rintro ⟨⟩
      · exact fun reads => (other _ reads).elim

theorem IsNumeral.literal? {literal : String} (numeral : IsNumeral literal) :
    numberLiteral? literal = some literal :=
  numberLiteral?_eq_some_iff.mpr numeral

theorem exists_head_of_readNumber {chars left : List Char} {kept : String}
    (reads : readNumber chars = some (kept, left)) :
    ∃ c rest, chars = c :: rest ∧ (c = '-' ∨ c.isDigit = true) := by
  cases chars with
  | nil => cases reads
  | cons c rest =>
      refine ⟨c, rest, rfl, ?_⟩
      by_cases minus : c = '-'
      · exact .inl minus
      · right
        by_contra noDigit
        have notZero : c ≠ '0' := by
          rintro rfl
          exact noDigit rfl
        simp [readNumber, readSign, readWhole, takeDigits, minus, notZero, noDigit] at reads

/-- What is kept of a number: the exponent has a small mark and its sign, and
all else is as it was. -/
inductive Respelled : List Char → List Char → Prop
  | same (chars : List Char) : Respelled chars chars
  | signed {mark sign : Char} {digits : List Char} (before : List Char)
      (isMark : mark = 'e' ∨ mark = 'E') (isSign : sign = '+' ∨ sign = '-')
      (all : ∀ c ∈ digits, c.isDigit = true) :
      Respelled (before ++ mark :: sign :: digits) (before ++ 'e' :: sign :: digits)
  | unsigned {mark : Char} {digits : List Char} (before : List Char)
      (isMark : mark = 'e' ∨ mark = 'E') (all : ∀ c ∈ digits, c.isDigit = true) :
      Respelled (before ++ mark :: digits) (before ++ 'e' :: '+' :: digits)

section

variable {chars digits left : List Char}

theorem Respelled.append_left {written kept : List Char} (respelled : Respelled written kept)
    (before : List Char) : Respelled (before ++ written) (before ++ kept) := by
  cases respelled with
  | same => exact .same _
  | signed middle isMark isSign all =>
      rw [← List.append_assoc, ← List.append_assoc]
      exact .signed _ isMark isSign all
  | unsigned middle isMark all =>
      rw [← List.append_assoc, ← List.append_assoc]
      exact .unsigned _ isMark all

theorem readSign_append_left (chars : List Char) :
    (readSign chars).1 ++ (readSign chars).2 = chars := by
  unfold readSign
  split <;> rfl

theorem takeDigits_append_left (chars : List Char) :
    (takeDigits chars).1 ++ (takeDigits chars).2 = chars :=
  List.takeWhile_append_dropWhile

theorem readWhole_append_left (reads : readWhole chars = some (digits, left)) :
    digits ++ left = chars := by
  unfold readWhole at reads
  split at reads
  · cases reads
    rfl
  · dsimp only at reads
    split at reads
    · cases reads
    · cases reads
      exact takeDigits_append_left chars

theorem readFraction_append_left (reads : readFraction chars = some (digits, left)) :
    digits ++ left = chars := by
  unfold readFraction at reads
  split at reads
  · dsimp only at reads
    split at reads
    · cases reads
    · cases reads
      exact congrArg ('.' :: ·) (takeDigits_append_left _)
  · cases reads
    rfl

theorem isDigit_of_mem_takeDigits {c : Char} (isIn : c ∈ (takeDigits chars).1) :
    c.isDigit = true :=
  List.mem_takeWhile_imp isIn

theorem readExponentSign_eq (chars : List Char) :
    (∃ sign rest, (sign = '+' ∨ sign = '-') ∧ chars = sign :: rest ∧
      readExponentSign chars = (sign, rest)) ∨ readExponentSign chars = ('+', chars) := by
  unfold readExponentSign
  split
  · exact .inl ⟨_, _, .inl rfl, rfl, rfl⟩
  · exact .inl ⟨_, _, .inr rfl, rfl, rfl⟩
  · exact .inr rfl

theorem respelled_of_readExponent (reads : readExponent chars = some (digits, left)) :
    ∃ written, written ++ left = chars ∧ Respelled written digits := by
  unfold readExponent at reads
  split at reads
  · cases reads
    exact ⟨[], rfl, .same _⟩
  · next mark rest =>
      split at reads
      · next isMark =>
          dsimp only at reads
          split at reads
          · cases reads
          · cases reads
            rcases readExponentSign_eq rest with ⟨sign, rest, isSign, rfl, signed⟩ | unsigned
            · rw [signed]
              exact ⟨_, congrArg (mark :: sign :: ·) (takeDigits_append_left rest),
                .signed [] isMark isSign fun _ isIn => isDigit_of_mem_takeDigits isIn⟩
            · rw [unsigned]
              exact ⟨_, congrArg (mark :: ·) (takeDigits_append_left rest),
                .unsigned [] isMark fun _ isIn => isDigit_of_mem_takeDigits isIn⟩
      · cases reads
        exact ⟨[], rfl, .same _⟩

/-- Just the exponent of a number is ever spelled anew. -/
theorem respelled_of_readNumber {kept : String} (reads : readNumber chars = some (kept, left)) :
    ∃ written, written ++ left = chars ∧ Respelled written kept.toList := by
  simp only [readNumber, Option.bind_eq_bind, Option.bind_eq_some_iff, Option.pure_def,
    Option.some.injEq, Prod.mk.injEq] at reads
  rcases reads with ⟨⟨whole, afterWhole⟩, readsWhole, ⟨fraction, afterFraction⟩, readsFraction,
    ⟨exponent, afterExponent⟩, readsExponent, rfl, rfl⟩
  rcases respelled_of_readExponent readsExponent with ⟨written, spells, respelled⟩
  refine ⟨(readSign chars).1 ++ whole ++ fraction ++ written, ?_, ?_⟩
  · rw [List.append_assoc, spells, List.append_assoc, readFraction_append_left readsFraction,
      List.append_assoc, readWhole_append_left readsWhole, readSign_append_left]
  · rw [String.toList_ofList]
    exact respelled.append_left _

end

theorem head_toDigits_ne_zero {value : Nat} (positive : 0 < value) (rest : List Char) :
    Nat.toDigits 10 value ≠ '0' :: rest := by
  induction value using Nat.strongRecOn generalizing rest with
  | ind value induction =>
      rw [Nat.toDigits_eq_if (by decide)]
      split
      · next single =>
          intro same
          have denotes := Nat.toNat_digitChar_sub_48_of_lt_ten single
          rw [(List.cons.inj same).1] at denotes
          exact Nat.ne_of_lt positive denotes
      · next several =>
          intro same
          have shorter := induction (value / 10) (by omega) (by omega)
          cases digits : Nat.toDigits 10 (value / 10) with
          | nil => exact absurd digits Nat.toDigits_ne_nil
          | cons c others =>
              rw [digits] at same
              rw [(List.cons.inj same).1] at digits
              exact shorter others digits

theorem isNumeral_repr (value : Nat) : IsNumeral value.repr := by
  have all : ∀ c ∈ Nat.toDigits 10 value, c.isDigit = true := fun c member =>
    Nat.isDigit_of_mem_toDigits (by decide) (by decide) member
  have takes : takeDigits (Nat.toDigits 10 value) = (Nat.toDigits 10 value, []) := by
    simp only [takeDigits, List.takeWhile_eq_self_iff.mpr all, List.dropWhile_eq_nil_iff.mpr all]
  have wholes : readWhole (Nat.toDigits 10 value) = some (Nat.toDigits 10 value, []) := by
    cases value with
    | zero => rfl
    | succ value =>
        unfold readWhole
        split
        · next leading => exact absurd leading (head_toDigits_ne_zero (Nat.succ_pos _) _)
        · simp [takes, Nat.toDigits_ne_nil]
  have unsigned : readSign (Nat.toDigits 10 value) = ([], Nat.toDigits 10 value) := by
    unfold readSign
    split
    · next minus => exact absurd (all '-' (minus ▸ List.mem_cons_self)) (by decide)
    · rfl
  rw [IsNumeral, Nat.repr_eq_ofList_toDigits, String.toList_ofList]
  simp [readNumber, unsigned, wholes, readFraction, readExponent]

end Json

end RedemptionRelay
