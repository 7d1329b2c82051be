import Mathlib.Algebra.Order.Floor.Semifield
import Mathlib.Data.List.Basic
import Mathlib.Data.Rat.Floor
import Mathlib.Tactic.NormNum
import RedemptionRelay.Proofs.Amount

/-! # What displayed amounts say

A displayed amount stands for its satoshis and for no others: in bitcoins as a
decimal fraction of eight places, and before the unit as decimal digits that
commas part into groups of three from the right.
-/

namespace RedemptionRelay

/-! ## Digits behind zeros -/

namespace Digits

theorem toList_padded (width number : Nat) :
    (padded width number).toList =
      List.replicate (width - (Nat.toDigits 10 number).length) '0' ++ Nat.toDigits 10 number :=
  String.toList_ofList

theorem denote_padded (width number : Nat) : Denote 10 (padded width number).toList number := by
  rw [toList_padded]
  exact (denote_toDigits number).zeros (by decide) _

theorem length_padded {width number : Nat} (positive : 0 < width) (fits : number < 10 ^ width) :
    (padded width number).toList.length = width := by
  have short := Nat.toDigits_length 10 number width positive fits
  rw [toList_padded, List.length_append, List.length_replicate]
  omega

theorem Denote.not_mem {digits : List Char} {number : Nat} (denotes : Denote 10 digits number)
    {mark : Char} (noDigit : mark.isDigit = false) : mark ∉ digits := by
  intro isIn
  rw [denotes.isDigit mark isIn] at noDigit
  cases noDigit

end Digits

namespace Amount

open Digits (Denote)

/-! ## Satoshis -/

theorem toSats_eq_floor (amount : Nat) :
    toSats amount = min ⌊(amount / 10 ^ 10 : ℚ)⌋₊ (2 ^ 64 - 1) := by
  have whole : ⌊(amount / 10 ^ 10 : ℚ)⌋₊ = amount / 10 ^ 10 := by
    exact_mod_cast Nat.floor_div_eq_div (K := ℚ) amount (10 ^ 10)
  rw [whole]
  rfl

theorem monotone_toSats : Monotone toSats :=
  fun _ _ le => min_le_min_right _ (Nat.div_le_div_right le)

/-! ## Decimal fractions -/

/-- Digits, a point and one digit for each place stand for a fraction. -/
inductive DenoteDecimal (places : Nat) : List Char → ℚ → Prop
  | pointed {whole fraction : List Char} {units parts : Nat} (denotes : Denote 10 whole units)
      (denotesParts : Denote 10 fraction parts) (long : fraction.length = places) :
      DenoteDecimal places (whole ++ '.' :: fraction) (units + parts / 10 ^ places)

theorem DenoteDecimal.unique {places otherPlaces : Nat} {text : List Char} {value other : ℚ}
    (denotes : DenoteDecimal places text value)
    (denotesOther : DenoteDecimal otherPlaces text other) :
    places = otherPlaces ∧ value = other := by
  rcases denotes with @⟨whole, fraction, units, parts, denotes, denotesParts, long⟩
  generalize same : whole ++ '.' :: fraction = text at denotesOther
  rcases denotesOther with @⟨_, _, _, _, denotesOther, denotesOtherParts, longOther⟩
  have pointless : '.' ∉ whole := denotes.not_mem rfl
  have pointlessParts : '.' ∉ fraction := denotesParts.not_mem rfl
  rcases (List.append_cons_inj_of_notMem pointless pointlessParts).mp same with ⟨rfl, -, rfl⟩
  have sameLength := long.symm.trans longOther
  subst sameLength
  rw [denotes.unique (by decide) denotesOther, denotesParts.unique (by decide) denotesOtherParts]
  exact ⟨rfl, rfl⟩

theorem denoteDecimal_bitcoinText (sats : Nat) :
    DenoteDecimal 8 (bitcoinText sats).toList (sats / 10 ^ 8) := by
  have spelled : (bitcoinText sats).toList =
      Nat.toDigits 10 (sats / satsPerBitcoin) ++
        '.' :: (Digits.padded 8 (sats % satsPerBitcoin)).toList := by
    rw [bitcoinText, String.toList_append, String.toList_append, Nat.toList_repr, List.append_assoc]
    rfl
  have parts : (sats : ℚ) =
      10 ^ 8 * (sats / satsPerBitcoin : Nat) + (sats % satsPerBitcoin : Nat) := by
    exact_mod_cast (Nat.div_add_mod sats satsPerBitcoin).symm
  have total : (sats : ℚ) / 10 ^ 8 =
      (sats / satsPerBitcoin : Nat) + (sats % satsPerBitcoin : Nat) / 10 ^ 8 := by
    have nonzero : (10 ^ 8 : ℚ) ≠ 0 := by norm_num
    rw [div_eq_iff nonzero, add_mul, div_mul_cancel₀ _ nonzero, mul_comm]
    exact parts
  have below : sats % satsPerBitcoin < 10 ^ 8 := Nat.mod_lt sats (by decide)
  rw [spelled, total]
  exact .pointed (Digits.denote_toDigits _) (Digits.denote_padded _ _)
    (Digits.length_padded (by decide) below)

theorem denoteDecimal_bitcoinText_iff {sats places : Nat} {value : ℚ} :
    DenoteDecimal places (bitcoinText sats).toList value ↔ places = 8 ∧ value * 10 ^ 8 = sats := by
  have nonzero : (10 ^ 8 : ℚ) ≠ 0 := by norm_num
  constructor
  · intro denotes
    rcases denotes.unique (denoteDecimal_bitcoinText sats) with ⟨rfl, rfl⟩
    exact ⟨rfl, div_mul_cancel₀ _ nonzero⟩
  · rintro ⟨rfl, total⟩
    rw [eq_div_of_mul_eq nonzero total]
    exact denoteDecimal_bitcoinText sats

theorem bitcoinText_injective : Function.Injective bitcoinText := by
  intro sats other same
  have denotes := denoteDecimal_bitcoinText sats
  rw [same, denoteDecimal_bitcoinText_iff] at denotes
  have total : (sats : ℚ) = other := by
    rw [← denotes.2, div_mul_cancel₀ _ (by norm_num)]
  exact_mod_cast total

/-! ## Groups of digits -/

/-- One to three digits, then groups of three digits each, with commas between
the groups. -/
inductive Grouped (digits : List Char) : List Char → Prop
  | groups {first : List Char} {others : List (List Char)} (filled : 0 < first.length)
      (few : first.length ≤ 3) (threes : ∀ group ∈ others, group.length = 3)
      (whole : (first :: others).flatten = digits) :
      Grouped digits ([','].intercalate (first :: others))

theorem length_flatten_of_threes {groups : List (List Char)}
    (threes : ∀ group ∈ groups, group.length = 3) : groups.flatten.length = 3 * groups.length := by
  induction groups with
  | nil => rfl
  | cons group groups induction =>
      rcases List.forall_mem_cons.mp threes with ⟨three, others⟩
      rw [List.flatten_cons, List.length_append, three, induction others, List.length_cons]
      omega

/-- A digit before grouped digits starts a group of its own if theirs are full. -/
theorem grouped_groupDigits {digits : List Char} (filled : digits ≠ []) :
    Grouped digits (groupDigits digits) := by
  induction digits with
  | nil => exact absurd rfl filled
  | cons digit rest induction =>
      rw [groupDigits]
      by_cases single : rest = []
      · subst single
        exact @Grouped.groups _ [digit] [] Nat.one_pos (Nat.le_add_left 1 2) nofun rfl
      · have grouped := induction single
        generalize groupDigits rest = text at grouped
        rcases grouped with @⟨first, others, notEmpty, few, threes, whole⟩
        have length : first.length + 3 * others.length = rest.length := by
          rw [← length_flatten_of_threes threes, ← List.length_append, ← List.flatten_cons, whole]
        split
        · next full =>
            have three : first.length = 3 := by omega
            have opens : [','].intercalate ([digit] :: first :: others) =
                digit :: ',' :: [','].intercalate (first :: others) :=
              List.intercalate_cons_cons
            rw [← opens]
            exact .groups Nat.one_pos (Nat.le_add_left 1 2)
              (List.forall_mem_cons.mpr ⟨three, threes⟩) (by rw [← whole]; rfl)
        · next room =>
            have short : (digit :: first).length ≤ 3 := by
              rw [List.length_cons]
              have : rest.length % 3 ≠ 0 := fun full => room ⟨full, single⟩
              omega
            rw [← List.intercalate_cons_cons_left]
            exact .groups (Nat.succ_pos _) short threes (by rw [← whole]; rfl)

theorem filter_intercalate {mark : Char} {groups : List (List Char)}
    (plain : mark ∉ groups.flatten) :
    ([mark].intercalate groups).filter (· ≠ mark) = groups.flatten := by
  have kept {group : List Char} (clear : mark ∉ group) : group.filter (· ≠ mark) = group :=
    List.filter_eq_self.mpr fun c isIn => decide_eq_true fun isMark => clear (isMark ▸ isIn)
  induction groups with
  | nil => rfl
  | cons group groups induction =>
      rw [List.flatten_cons, List.mem_append, not_or] at plain
      cases groups with
      | nil => rw [List.intercalate_singleton, kept plain.1, List.flatten_singleton]
      | cons next others =>
          rw [List.intercalate_cons_cons, List.filter_append, List.filter_append, kept plain.1,
            induction plain.2, List.filter_cons_of_neg (by simp)]
          simp

theorem Grouped.filter_eq {digits text : List Char} (grouped : Grouped digits text)
    (plain : ',' ∉ digits) : text.filter (· ≠ ',') = digits := by
  rcases grouped with ⟨-, -, -, rfl⟩
  exact filter_intercalate plain

theorem grouped_groupedText (sats : Nat) : Grouped sats.repr.toList (groupedText sats).toList := by
  rw [groupedText, String.toList_ofList, Nat.toList_repr]
  exact grouped_groupDigits Nat.toDigits_ne_nil

theorem filter_groupedText (sats : Nat) :
    (groupedText sats).toList.filter (· ≠ ',') = sats.repr.toList := by
  have denotes := Digits.denote_toDigits sats
  refine (grouped_groupedText sats).filter_eq ?_
  rw [Nat.toList_repr]
  exact denotes.not_mem rfl

theorem blank_not_mem_groupedText (sats : Nat) : ' ' ∉ (groupedText sats).toList := by
  intro isIn
  have kept : ' ' ∈ (groupedText sats).toList.filter (· ≠ ',') :=
    List.mem_filter.mpr ⟨isIn, rfl⟩
  rw [filter_groupedText, Nat.toList_repr] at kept
  exact (Digits.denote_toDigits sats).not_mem rfl kept

theorem toList_displayText (sats : Nat) :
    (displayText sats).toList =
      (groupedText sats).toList ++ " sats".toList ++
        (" (" ++ bitcoinText sats ++ " BTC)").toList := by
  have whole : displayText sats =
      groupedText sats ++ " sats (" ++ bitcoinText sats ++ " BTC)" := rfl
  rw [whole]
  simp only [String.toList_append, List.append_assoc]
  rfl

/-- Every amount is shown as what it is. -/
theorem amounts_displayed :
    (∀ amount : Nat, toSats amount = min ⌊(amount / 10 ^ 10 : ℚ)⌋₊ (2 ^ 64 - 1)) ∧
    Monotone toSats ∧
    (∀ (sats places : Nat) (value : ℚ), DenoteDecimal places (bitcoinText sats).toList value ↔
      places = 8 ∧ value * 10 ^ 8 = sats) ∧
    Function.Injective bitcoinText ∧
    ∀ sats : Nat, ∃ grouped rest, (displayText sats).toList = grouped ++ " sats".toList ++ rest ∧
      ' ' ∉ grouped ∧ Grouped sats.repr.toList grouped ∧
        grouped.filter (· ≠ ',') = sats.repr.toList :=
  ⟨toSats_eq_floor, monotone_toSats, fun _ _ _ => denoteDecimal_bitcoinText_iff,
    bitcoinText_injective, fun sats => ⟨_, _, toList_displayText sats,
      blank_not_mem_groupedText sats, grouped_groupedText sats, filter_groupedText sats⟩⟩

example : displayText (toSats 12345678999999999999) = "1,234,567,899 sats (12.34567899 BTC)" := by
  decide +kernel

end Amount

end RedemptionRelay
