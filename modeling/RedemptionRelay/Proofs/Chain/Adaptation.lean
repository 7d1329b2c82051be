import RedemptionRelay.Chain.Adaptation

/-! # What adapted events hold

Every number of an adapted event has been checked against its width.
-/

namespace RedemptionRelay

open Json (Value)

theorem Except.bind_eq_ok {error first second : Type} {read : Except error first}
    {goOn : first → Except error second} {result : second} :
    (read >>= goOn) = .ok result ↔ ∃ value, read = .ok value ∧ goOn value = .ok result := by
  constructor
  · intro same
    cases read with
    | error error => cases same
    | ok value => exact ⟨value, rfl, same⟩
  · rintro ⟨value, rfl, same⟩
    exact same

theorem Amount.lt_of_parse? {text : String} {amount : Nat} (parsed : parse? text = some amount) :
    amount < Width.bound128 := by
  unfold parse? parseChars? at parsed
  dsimp only at parsed
  split at parsed
  · next value read =>
      split at parsed
      · next fits => exact Option.some.inj parsed ▸ fits
      · cases parsed
  · cases parsed

namespace Adaptation

variable {name : String} {value : Value} {number : Nat}

theorem lt_of_whole (read : whole name value = .ok number) : number < Width.bound128 := by
  unfold whole at read
  split at read
  · split at read
    · split at read
      · next fits => exact Except.ok.inj read ▸ fits
      · cases read
    · cases read
  · split at read
    · next parsed => exact Except.ok.inj read ▸ Amount.lt_of_parse? parsed
    · cases read
  · cases read

theorem lt_of_wholeBelow {bound : Nat} (read : wholeBelow bound name value = .ok number) :
    number < bound := by
  rcases Except.bind_eq_ok.mp read with ⟨whole, -, checked⟩
  split at checked
  · next fits => exact Except.ok.inj checked ▸ fits
  · cases checked

theorem eq_of_positive {amount : Nat} (checked : positive name number = .ok amount) :
    amount = number := by
  unfold positive at checked
  split at checked
  · cases checked
  · exact (Except.ok.inj checked).symm

theorem inRange_of_mainUtxo {names : FieldNames} {utxo : MainUtxo}
    (read : mainUtxo names value = .ok utxo) : utxo.InRange := by
  simp only [mainUtxo, Except.bind_eq_ok] at read
  rcases read with ⟨_, -, _, -, _, -, _, -, index, isIndex, _, -, amount, isAmount, same⟩
  cases same
  exact ⟨lt_of_wholeBelow isIndex, lt_of_wholeBelow isAmount⟩

end Adaptation

open Adaptation in
theorem ChainKind.inRange_of_adapt {kind : ChainKind} {raw : Value} {event : Event}
    (adapted : kind.adapt raw = .ok event) : event.InRange := by
  simp only [adapt, Except.bind_eq_ok] at adapted
  rcases adapted with ⟨_, -, _, -, _, -, _, -, utxo, isUtxo, _, -, _, -, _, -, amount, isAmount,
    positive, isPositive, same⟩
  cases same
  exact ⟨inRange_of_mainUtxo isUtxo, eq_of_positive isPositive ▸ lt_of_whole isAmount⟩

end RedemptionRelay
