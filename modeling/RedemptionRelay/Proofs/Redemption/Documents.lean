import RedemptionRelay.Proofs.Json.RoundTrip
import RedemptionRelay.Redemption.Json

/-! # Documents of a record

The event and the diagnostic trail of a record are read back from their
documents as they were, whatever texts they hold, as long as their numbers fit
the widths in which they are kept.
-/

namespace RedemptionRelay

namespace Json

theorem namedMembers_memberTrees (members : List (String × Value)) :
    Tree.namedMembers (Value.memberTrees members) =
      some (members.map fun member => (member.1, member.2.tree)) := by
  induction members with
  | nil => rfl
  | cons member members induction =>
      simp [Value.memberTrees, Tree.namedMembers, induction]

theorem fields?_object {names : List String} {members : List (String × Value)}
    (known : ∀ name ∈ members.map (·.1), name ∈ names)
    (distinct : (members.map (·.1)).Nodup) (leading : Nat) :
    (Value.object members).tree.fields? names leading =
      some (members.map fun member => (member.1, member.2.tree)) := by
  have kept : (members.map fun member => (member.1, member.2.tree)).filter
      (fun field => names.contains field.1) =
        members.map fun member => (member.1, member.2.tree) := by
    rw [List.filter_eq_self]
    intro field member
    rcases List.mem_map.mp member with ⟨member, inMembers, rfl⟩
    exact List.contains_iff_mem.mpr (known _ (List.mem_map_of_mem inMembers))
  have sameNames : (members.map fun member => (member.1, member.2.tree)).map (·.1) =
      members.map (·.1) := by
    rw [List.map_map]
    rfl
  rw [Value.tree, Tree.fields?, namedMembers_memberTrees]
  simp only [Option.bind_eq_bind, Option.bind_some, kept, sameNames, if_pos distinct]

theorem required?_cons {α : Type} (fields : Tree.Fields) (name other : String) (tree : Tree)
    (read : Tree → Option α) :
    Tree.Fields.required? ((other, tree) :: fields) name read =
      if name = other then read tree else fields.required? name read := by
  unfold Tree.Fields.required?
  rw [List.lookup_cons]
  by_cases same : name = other
  · simp [same]
  · rw [beq_false_of_ne same, if_neg same]

theorem natural?_ofNat {bound value : Nat} (fits : value < bound) :
    Tree.natural? bound (Value.ofNat value).tree = some value := by
  rw [Value.ofNat, Value.tree, Tree.natural?, Nat.repr_eq_ofList_toDigits, String.toList_ofList,
    Digits.read?_toDigits]
  exact if_pos fits

theorem text?_text (content : String) : Tree.text? (Value.text content).tree = some content :=
  rfl

end Json

open Json

/-! ## Words -/

theorem Status.ofText?_text (status : Status) : Status.ofText? status.text = some status := by
  cases status <;> decide

theorem AttestationState.ofText?_text (state : AttestationState) :
    AttestationState.ofText? state.text = some state := by
  cases state <;> decide

/-! ## Events -/

theorem MainUtxo.ofJson?_tree {utxo : MainUtxo} (fits : utxo.InRange) :
    MainUtxo.ofJson? utxo.json.tree = some utxo := by
  rcases utxo with ⟨txHash, outputIndex, outputValue⟩
  rcases fits with ⟨indexFits, valueFits⟩
  rw [MainUtxo.ofJson?, MainUtxo.json, fields?_object (by simp) (by simp)]
  simp only [List.map_cons, List.map_nil, required?_cons, String.reduceEq, if_true, if_false,
    Option.bind_eq_bind, Option.bind_some, Option.pure_def, text?_text, natural?_ofNat indexFits,
    natural?_ofNat valueFits]

theorem Event.ofJson?_tree {event : Event} (fits : event.InRange) :
    Event.ofJson? event.json.tree = some event := by
  rcases event with ⟨walletPubKeyHash, mainUtxo, redeemerOutputScript, amount, sourceTxHash⟩
  rcases fits with ⟨utxoFits, amountFits⟩
  rw [Event.ofJson?, Event.json, fields?_object (by simp) (by simp)]
  simp only [List.map_cons, List.map_nil, required?_cons, String.reduceEq, if_true, if_false,
    Option.bind_eq_bind, Option.bind_some, Option.pure_def, text?_text,
    MainUtxo.ofJson?_tree utxoFits, natural?_ofNat amountFits]

theorem Event.spelled_json (event : Event) : event.json.Spelled := by
  simp [Event.json, MainUtxo.json, Value.Spelled, Value.MembersSpelled, Value.spelled_ofNat]

/-! ## Trails -/

theorem LogEntry.ofJson?_tree {entry : LogEntry} (fits : entry.time < Width.bound64) :
    LogEntry.ofJson? entry.json.tree = some entry := by
  rw [LogEntry.ofJson?, LogEntry.json, fields?_object (by simp) (by simp)]
  simp only [List.map_cons, List.map_nil, required?_cons, String.reduceEq, if_true, if_false,
    Option.bind_eq_bind, Option.bind_some, Option.pure_def, text?_text, natural?_ofNat fits]

theorem logsOfJson?_tree {logs : List LogEntry} (fit : ∀ entry ∈ logs, entry.time < Width.bound64) :
    logsOfJson? (logsJson logs).tree = some logs := by
  rw [logsJson, Value.tree, logsOfJson?, Tree.list?]
  induction logs with
  | nil => rfl
  | cons entry logs induction =>
      rcases List.forall_mem_cons.mp fit with ⟨fits, others⟩
      simp [Value.itemTrees, LogEntry.ofJson?_tree fits, induction others]

theorem spelled_logsJson (logs : List LogEntry) : (logsJson logs).Spelled := by
  rw [logsJson, Value.Spelled]
  induction logs with
  | nil => trivial
  | cons entry logs induction =>
      refine ⟨?_, induction⟩
      simp [LogEntry.json, Value.Spelled, Value.MembersSpelled, Value.spelled_ofNat]

end RedemptionRelay
