import RedemptionRelay.Store

/-! # The store in memory

A list of records with different identifiers.
-/

namespace RedemptionRelay

structure MemoryStore where
  records : List Redemption := []
  distinct : (records.map (·.id)).Nodup := by simp

namespace MemoryStore

def find? (store : MemoryStore) (id : String) : Option Redemption :=
  store.records.find? (·.id == id)

/-- Older first; of the same age, the smaller identifier first. -/
def olderOrEqual (left right : Redemption) : Bool :=
  left.dates.createdAt < right.dates.createdAt ||
    (left.dates.createdAt == right.dates.createdAt && left.id ≤ right.id)

theorem not_mem_ids_of_find?_eq_none {store : MemoryStore} {id : String}
    (absent : store.find? id = none) : id ∉ store.records.map (·.id) := by
  intro member
  rcases List.mem_map.mp member with ⟨record, inRecords, sameId⟩
  have found := List.find?_eq_none.mp absent record inRecords
  simp [sameId] at found

theorem map_id_replace (records : List Redemption) (next : Redemption) :
    (records.map fun record => if record.id = next.id then next else record).map (·.id) =
      records.map (·.id) := by
  induction records with
  | nil => rfl
  | cons record rest inductionHypothesis =>
      by_cases same : record.id = next.id <;> simp [same, inductionHypothesis]

def insert (store : MemoryStore) (record : Redemption) (absent : store.find? record.id = none) :
    MemoryStore :=
  { records := store.records ++ [record]
    distinct := by
      have fresh := not_mem_ids_of_find?_eq_none absent
      rw [List.map_append]
      refine List.nodup_append.mpr ⟨store.distinct, by simp, ?_⟩
      intro id inStore other inNew
      simp only [List.map_cons, List.map_nil, List.mem_singleton] at inNew
      intro same
      exact fresh (inNew ▸ same ▸ inStore) }

def replace (store : MemoryStore) (next : Redemption) : MemoryStore :=
  { records := store.records.map fun record => if record.id = next.id then next else record
    distinct := by rw [map_id_replace]; exact store.distinct }

def remove (store : MemoryStore) (id : String) : MemoryStore :=
  { records := store.records.filter (·.id ≠ id)
    distinct := store.distinct.sublist (List.filter_sublist.map _) }

def create (store : MemoryStore) (record : Redemption) : Creation × MemoryStore :=
  match absent : store.find? record.id with
  | some _ => (.alreadyExists, store)
  | none => (.created, store.insert record absent)

def update (store : MemoryStore) (record : Redemption) (expected : Nat) :
    Except StoreError (Nat × MemoryStore) :=
  match store.find? record.id with
  | none => .error (.notFound record.id)
  | some stored =>
      if stored.version = expected then
        .ok (expected + 1, store.replace { record with version := expected + 1 })
      else
        .error (.versionConflict record.id expected)

def matching (store : MemoryStore) (chain : Option String) : List Redemption :=
  store.records.filter fun record => matchesChain chain record.chain

def withStatus (store : MemoryStore) (status : Status) (chain : Option String) : List Redemption :=
  ((store.matching chain).filter (·.status = status)).mergeSort olderOrEqual

def delete (store : MemoryStore) (id : String) : Bool × MemoryStore :=
  ((store.find? id).isSome, store.remove id)

instance : Store MemoryStore where
  create store record := .ok (store.create record)
  update store record expected := store.update record expected
  get? store id := .ok (store.find? id)
  withStatus store status chain := .ok (store.withStatus status chain)
  delete store id := .ok (store.delete id)
  countByStatus store chain := .ok (tally ((store.matching chain).map (·.status)))

end MemoryStore

end RedemptionRelay
