import Mathlib.Data.List.Nodup
import RedemptionRelay.Proofs.Redemption.Changes
import RedemptionRelay.Store.Memory

/-! # Lawful stores

What the rest of the relay may rely on, whatever the store is made of: it keeps
at most one record per identifier, a write lands exactly if the version is the
one that was read, and what has been written is what is read. Only records
whose numbers fit their widths are ever written, and an update is always a
later state of the record that it replaces.
-/

namespace RedemptionRelay

class LawfulStore (σ : Type) [Store σ] where
  /-- The store holds nothing but records as they were written. -/
  Sound : σ → Prop
  record? : σ → String → Option Redemption
  id_of_record? : ∀ {store : σ} {id : String} {record : Redemption},
    Sound store → record? store id = some record → record.id = id
  create_of_vacant : ∀ {store : σ} {record : Redemption},
    Sound store → record.InRange → record? store record.id = none →
      ∃ next, Store.create store record = .ok (.created, next) ∧ Sound next ∧
        ∀ id, record? next id = if id = record.id then some record else record? store id
  create_of_taken : ∀ {store : σ} {record stored : Redemption},
    Sound store → record? store record.id = some stored →
      Store.create store record = .ok (.alreadyExists, store)
  update_of_vacant : ∀ {store : σ} {record : Redemption} {expected : Nat},
    Sound store → record? store record.id = none →
      Store.update store record expected = .error (.notFound record.id)
  update_of_stale : ∀ {store : σ} {record stored : Redemption} {expected : Nat},
    Sound store → expected < Width.bound64 → record? store record.id = some stored →
      stored.version ≠ expected →
        Store.update store record expected = .error (.versionConflict record.id expected)
  update_of_current : ∀ {store : σ} {record stored : Redemption},
    Sound store → { record with version := stored.version + 1 }.InRange →
      record? store record.id = some stored → record.SameRequest stored →
        ∃ next, Store.update store record stored.version = .ok (stored.version + 1, next) ∧
          Sound next ∧
          ∀ id, record? next id =
            if id = record.id then some { record with version := stored.version + 1 }
            else record? store id
  withStatus_of_sound : ∀ {store : σ} (status : Status) (chain : Option String),
    Sound store → ∃ records, Store.withStatus store status chain = .ok records ∧
      ∀ record, record ∈ records ↔
        record? store record.id = some record ∧ record.status = status ∧
          matchesChain chain record.chain = true

/-! ## The store in memory -/

namespace MemoryStore

variable {store : MemoryStore} {record stored : Redemption} {id : String}

theorem id_of_find? (found : store.find? id = some record) : record.id = id := by
  simpa using List.find?_some found

theorem find?_eq_some_iff :
    store.find? id = some record ↔ record ∈ store.records ∧ record.id = id := by
  constructor
  · intro found
    exact ⟨List.mem_of_find?_eq_some found, id_of_find? found⟩
  · rintro ⟨inStore, rfl⟩
    cases found : store.find? record.id with
    | none => exact absurd (List.mem_map_of_mem inStore) (not_mem_ids_of_find?_eq_none found)
    | some other =>
        have inStore' := List.mem_of_find?_eq_some found
        have sameId := id_of_find? found
        exact congrArg some (List.inj_on_of_nodup_map store.distinct inStore' inStore sameId)

theorem find?_insert (absent : store.find? record.id = none) (id : String) :
    (store.insert record absent).find? id =
      if id = record.id then some record else store.find? id := by
  unfold find? insert
  rw [List.find?_append]
  by_cases same : id = record.id
  · subst same
    have nothing : store.records.find? (·.id == record.id) = none := absent
    simp [nothing]
  · have different : ¬ record.id = id := fun equal => same equal.symm
    simp [same, different]

theorem find?_replace (found : store.find? record.id = some stored) (id : String) :
    (store.replace record).find? id = if id = record.id then some record else store.find? id := by
  let place (other : Redemption) := if other.id = record.id then record else other
  have keepsId (other : Redemption) : (place other).id = other.id := by
    by_cases same : other.id = record.id <;> simp [place, same]
  have mapped : (store.replace record).find? id = (store.find? id).map place := by
    have samePlaces : ((·.id == id) ∘ place) = (·.id == id) :=
      funext fun other => congrArg (· == id) (keepsId other)
    show (store.records.map place).find? (·.id == id) = _
    rw [List.find?_map, samePlaces]
    rfl
  rw [mapped]
  by_cases same : id = record.id
  · subst same
    simp [found, place, id_of_find? found]
  · rw [if_neg same]
    cases other : store.find? id with
    | none => rfl
    | some other' =>
        have different : ¬ other'.id = record.id := id_of_find? other ▸ same
        simp [place, different]

theorem update_of_find? (found : store.find? record.id = some stored) (expected : Nat) :
    store.update record expected =
      if stored.version = expected then
        .ok (expected + 1, store.replace { record with version := expected + 1 })
      else .error (.versionConflict record.id expected) := by
  unfold update
  rw [found]

theorem mem_withStatus (status : Status) (chain : Option String) :
    record ∈ store.withStatus status chain ↔
      store.find? record.id = some record ∧ record.status = status ∧
        matchesChain chain record.chain = true := by
  rw [find?_eq_some_iff]
  simp only [withStatus, matching, List.mem_mergeSort, List.mem_filter, decide_eq_true_eq]
  constructor
  · rintro ⟨⟨inStore, ofChain⟩, ofStatus⟩
    exact ⟨⟨inStore, trivial⟩, ofStatus, ofChain⟩
  · rintro ⟨⟨inStore, -⟩, ofStatus, ofChain⟩
    exact ⟨⟨inStore, ofChain⟩, ofStatus⟩

end MemoryStore

instance : LawfulStore MemoryStore where
  Sound _ := True
  record? := MemoryStore.find?
  id_of_record? _ found := MemoryStore.id_of_find? found
  create_of_vacant {store record} _ _ vacant := by
    refine ⟨store.insert record vacant, ?_, trivial, MemoryStore.find?_insert vacant⟩
    show Except.ok (store.create record) = _
    unfold MemoryStore.create
    split
    · next taken => exact absurd (taken.symm.trans vacant) (by simp)
    · rfl
  create_of_taken {store record stored} _ taken := by
    show Except.ok (store.create record) = _
    unfold MemoryStore.create
    split
    · rfl
    · next vacant => exact absurd (taken.symm.trans vacant) (by simp)
  update_of_vacant {store record expected} _ vacant := by
    show store.update record expected = _
    unfold MemoryStore.update
    rw [vacant]
  update_of_stale {store record stored expected} _ _ found stale := by
    show store.update record expected = _
    rw [MemoryStore.update_of_find? found, if_neg stale]
  update_of_current {store record stored} _ _ found _ := by
    let next := { record with version := stored.version + 1 }
    have foundNext : MemoryStore.find? store next.id = some stored := found
    exact ⟨store.replace next, (MemoryStore.update_of_find? found _).trans (if_pos rfl), trivial,
      MemoryStore.find?_replace foundNext⟩
  withStatus_of_sound status chain _ :=
    ⟨_, rfl, fun _ => MemoryStore.mem_withStatus status chain⟩

end RedemptionRelay
