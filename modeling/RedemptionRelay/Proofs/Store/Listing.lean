import RedemptionRelay.Proofs.Redemption.Budget
import RedemptionRelay.Proofs.Store.Mirror

/-! # What a store lists

Both stores list every record once, so the two lists that a batch reads have no
redemption twice.
-/

namespace RedemptionRelay

/-- A store that lists no record twice. -/
class ListsOnce (σ : Type) [Store σ] [LawfulStore σ] : Prop where
  nodup_of_withStatus : ∀ {store : σ} {status : Status} {chain : Option String}
    {records : List Redemption}, LawfulStore.Sound store →
      Store.withStatus store status chain = .ok records → (records.map (·.id)).Nodup

theorem MemoryStore.nodup_matching (memory : MemoryStore) (status : Status)
    (chain : Option String) :
    (((memory.matching chain).filter (·.status = status)).map (·.id)).Nodup :=
  memory.distinct.sublist ((List.filter_sublist.trans List.filter_sublist).map _)

instance : ListsOnce MemoryStore where
  nodup_of_withStatus {memory status chain records} _ lists := by
    cases lists
    exact ((List.mergeSort_perm _ _).map _).nodup_iff.mpr (memory.nodup_matching status chain)

instance : ListsOnce TableStore where
  nodup_of_withStatus {table status chain records} sound lists := by
    rcases sound with ⟨memory, mirrors⟩
    cases lists
    refine ((List.mergeSort_perm _ _).map _).nodup_iff.mpr ?_
    rw [mirrors.matching]
    exact memory.nodup_matching status chain

/-! ## What a batch reads -/

def Phase.reading {σ : Type} [Store σ] (phase : Phase) (chain : Option String) (store : σ) :
    List Redemption :=
  match Store.withStatus store phase.waiting chain, Store.withStatus store phase.retrying chain with
  | .ok waiting, .ok retrying => waiting ++ retrying
  | _, _ => []

section

variable {σ : Type} [Store σ] [LawfulStore σ] {store : σ} {phase : Phase} {chain : Option String}
  {record : Redemption}

theorem Phase.reading_of_sound (sound : LawfulStore.Sound store) (phase : Phase)
    (chain : Option String) :
    ∃ waiting retrying, Store.withStatus store phase.waiting chain = .ok waiting ∧
      Store.withStatus store phase.retrying chain = .ok retrying ∧
      phase.reading chain store = waiting ++ retrying := by
  rcases LawfulStore.withStatus_of_sound phase.waiting chain sound with ⟨waiting, listsWaiting, -⟩
  rcases LawfulStore.withStatus_of_sound phase.retrying chain sound with
    ⟨retrying, listsRetrying, -⟩
  refine ⟨waiting, retrying, listsWaiting, listsRetrying, ?_⟩
  unfold reading
  rw [listsWaiting, listsRetrying]

theorem Phase.mem_reading (sound : LawfulStore.Sound store) :
    record ∈ phase.reading chain store ↔ LawfulStore.record? store record.id = some record ∧
      phase.Reads record ∧
      matchesChain chain record.chain = true := by
  rcases LawfulStore.withStatus_of_sound phase.waiting chain sound with
    ⟨waiting, listsWaiting, memWaiting⟩
  rcases LawfulStore.withStatus_of_sound phase.retrying chain sound with
    ⟨retrying, listsRetrying, memRetrying⟩
  unfold reading
  rw [listsWaiting, listsRetrying]
  simp only [List.mem_append, memWaiting, memRetrying, Reads]
  tauto

theorem Phase.nodup_reading [ListsOnce σ] (sound : LawfulStore.Sound store) :
    ((phase.reading chain store).map (·.id)).Nodup := by
  rcases LawfulStore.withStatus_of_sound phase.waiting chain sound with
    ⟨waiting, listsWaiting, memWaiting⟩
  rcases LawfulStore.withStatus_of_sound phase.retrying chain sound with
    ⟨retrying, listsRetrying, memRetrying⟩
  unfold reading
  rw [listsWaiting, listsRetrying]
  dsimp only
  rw [List.map_append]
  refine List.nodup_append.mpr ⟨ListsOnce.nodup_of_withStatus sound listsWaiting,
    ListsOnce.nodup_of_withStatus sound listsRetrying, ?_⟩
  -- A record of both lists would be in two states at once.
  intro id amongWaiting other amongRetrying sameId
  rcases List.mem_map.mp amongWaiting with ⟨left, leftThere, rfl⟩
  rcases List.mem_map.mp amongRetrying with ⟨right, rightThere, rfl⟩
  rcases (memWaiting left).mp leftThere with ⟨leftStored, leftStatus, -⟩
  rcases (memRetrying right).mp rightThere with ⟨rightStored, rightStatus, -⟩
  rw [sameId, rightStored] at leftStored
  cases leftStored
  cases phase <;> cases leftStatus.symm.trans rightStatus

end

end RedemptionRelay
