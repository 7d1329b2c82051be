import Mathlib.Order.Lattice
import RedemptionRelay.Proofs.Store.Mirror

/-! # Either store will do

Started empty, the store in memory and the table answer every sequence of
operations alike, as long as the records fit their widths, were made before
the sign of the time turns, and are updated only by later states of
themselves. An operation that is turned down leaves both as they were.
-/

namespace RedemptionRelay

inductive StoreOperation where
  | create (record : Redemption)
  | update (record : Redemption) (expected : Nat)
  | get (id : String)
  | withStatus (status : Status) (chain : Option String)
  | delete (id : String)
  | countByStatus (chain : Option String)

namespace StoreOperation

abbrev Result : StoreOperation → Type
  | .create _ => Creation
  | .update _ _ => Nat
  | .get _ => Option Redemption
  | .withStatus _ _ => List Redemption
  | .delete _ => Bool
  | .countByStatus _ => StatusCounts

section Courses

variable {σ : Type} [Store σ]

def attempt (store : σ) :
    (operation : StoreOperation) → Except StoreError (operation.Result × σ)
  | .create record => Store.create store record
  | .update record expected => Store.update store record expected
  | .get id => (Store.get? store id).map (·, store)
  | .withStatus status chain => (Store.withStatus store status chain).map (·, store)
  | .delete id => Store.delete store id
  | .countByStatus chain => (Store.countByStatus store chain).map (·, store)

def answer (store : σ) (operation : StoreOperation) : Except StoreError operation.Result :=
  (operation.attempt store).map (·.1)

def after (store : σ) (operation : StoreOperation) : σ :=
  match operation.attempt store with
  | .ok (_, next) => next
  | .error _ => store

theorem after_of_ok {store next : σ} {operation : StoreOperation} {result : operation.Result}
    (accepted : operation.attempt store = .ok (result, next)) : operation.after store = next := by
  rw [after, accepted]

theorem after_of_error {store : σ} {operation : StoreOperation} {error : StoreError}
    (refused : operation.attempt store = .error error) : operation.after store = store := by
  rw [after, refused]

def course (store : σ) (operations : List StoreOperation) : σ :=
  operations.foldl after store

end Courses

/-- The operation has failed, or has found the identifier taken. -/
def TurnsDown : (operation : StoreOperation) → Except StoreError operation.Result → Prop
  | _, .error _ => True
  | .create _, .ok creation => creation = .alreadyExists
  | _, .ok _ => False

/-- New records fit and are of a time before the sign turns; updates are later
states of what is stored, if anything is. -/
def Regular (memory : MemoryStore) : StoreOperation → Prop
  | .create record => record.InRange ∧ record.dates.createdAt < Width.signedBound64
  | .update record expected =>
      record.InRange ∧ expected < Width.max64 ∧
        ∀ stored ∈ memory.find? record.id, record.SameRequest stored
  | _ => True

def RegularCourse (memory : MemoryStore) : List StoreOperation → Prop
  | [] => True
  | operation :: later =>
      operation.Regular memory ∧ RegularCourse (operation.after memory) later

end StoreOperation

open StoreOperation

instance (left right : Redemption) : Decidable (left.SameRequest right) :=
  decidable_of_iff
    (left.id = right.id ∧ left.chain = right.chain ∧ left.event = right.event ∧
      left.dates.createdAt = right.dates.createdAt)
    ⟨fun ⟨id, chain, event, createdAt⟩ => ⟨id, chain, event, createdAt⟩,
      fun ⟨id, chain, event, createdAt⟩ => ⟨id, chain, event, createdAt⟩⟩

instance (memory : MemoryStore) : (operation : StoreOperation) →
    Decidable (operation.Regular memory)
  | .create _ => inferInstanceAs (Decidable (_ ∧ _))
  | .update record _ =>
      inferInstanceAs (Decidable (_ ∧ _ ∧ ∀ stored ∈ memory.find? record.id, _))
  | .get _ | .withStatus _ _ | .delete _ | .countByStatus _ => .isTrue trivial

instance decidableRegularCourse (memory : MemoryStore) : (operations : List StoreOperation) →
    Decidable (RegularCourse memory operations)
  | [] => .isTrue trivial
  | operation :: later =>
      have := decidableRegularCourse (operation.after memory) later
      inferInstanceAs (Decidable (_ ∧ _))

/-! ## Early times

A record that is stored after an operation was there before, or is the new one,
or is what an update has made of one that was there. -/

namespace MemoryStore

variable {memory next : MemoryStore} {operation : StoreOperation} {record : Redemption}
  {expected version : Nat}

def Early (memory : MemoryStore) : Prop :=
  ∀ record ∈ memory.records, record.dates.createdAt < Width.signedBound64

theorem replaced_of_update (updates : memory.update record expected = .ok (version, next)) :
    ∃ stored, memory.find? record.id = some stored ∧
      next = memory.replace { record with version := expected + 1 } := by
  cases found : memory.find? record.id with
  | none =>
      rw [update, found] at updates
      cases updates
  | some stored =>
      rw [update_of_find? found] at updates
      split at updates
      · cases updates
        exact ⟨stored, rfl, rfl⟩
      · cases updates

theorem Early.create (early : memory.Early)
    (isEarly : record.dates.createdAt < Width.signedBound64) : (memory.create record).2.Early := by
  unfold MemoryStore.create
  split
  · exact early
  · exact List.forall_mem_append.mpr ⟨early, List.forall_mem_singleton.mpr isEarly⟩

theorem Early.replace (early : memory.Early)
    (isEarly : record.dates.createdAt < Width.signedBound64) : (memory.replace record).Early := by
  intro other member
  rcases List.mem_map.mp member with ⟨earlier, inMemory, rfl⟩
  split
  · exact isEarly
  · exact early earlier inMemory

theorem Early.update (early : memory.Early)
    (same : ∀ stored ∈ memory.find? record.id, record.SameRequest stored)
    (updates : memory.update record expected = .ok (version, next)) : next.Early := by
  rcases replaced_of_update updates with ⟨stored, found, rfl⟩
  refine early.replace ?_
  show record.dates.createdAt < _
  rw [(same stored found).createdAt]
  exact early stored (find?_eq_some_iff.mp found).1

theorem Early.of_attempt (early : memory.Early) (regular : operation.Regular memory)
    {result : operation.Result} (accepted : operation.attempt memory = .ok (result, next)) :
    next.Early := by
  cases operation with
  | create record =>
      have sameStore : (memory.create record).2 = next :=
        congrArg Prod.snd (Except.ok.inj accepted)
      exact sameStore ▸ early.create regular.2
  | update record expected => exact early.update regular.2.2 accepted
  | delete id =>
      cases accepted
      exact fun record member => early record (List.mem_of_mem_filter member)
  | get | withStatus | countByStatus =>
      cases accepted
      exact early

end MemoryStore

/-! ## Side by side -/

namespace TableStore

variable {table : TableStore} {memory : MemoryStore} {operation : StoreOperation}

theorem Mirrors.attempt (mirrors : table.Mirrors memory) (early : memory.Early)
    (regular : operation.Regular memory) :
    Concurs (operation.attempt table) (operation.attempt memory) := by
  cases operation with
  | create record => exact mirrors.create regular.1
  | update record expected =>
      rcases regular with ⟨fits, inWidth, same⟩
      have nextFits : { record with version := expected + 1 }.InRange :=
        ⟨fits.1, fits.2.1, fits.2.2.1, Nat.succ_lt_succ inWidth, fits.2.2.2.2⟩
      exact mirrors.update nextFits same
  | get id =>
      show Concurs ((table.get? id).map (·, table)) (.ok (memory.find? id, memory))
      rw [mirrors.get?]
      exact .accepted rfl mirrors
  | withStatus status chain => exact .accepted (mirrors.withStatus early status chain) mirrors
  | delete id => exact mirrors.delete id
  | countByStatus chain =>
      show Concurs ((table.countByStatus chain).map (·, table)) (.ok (_, memory))
      rw [mirrors.countByStatus]
      exact .accepted rfl mirrors

/-- The table mirrors the memory, whose records are early. -/
structure Twins (table : TableStore) (memory : MemoryStore) : Prop where
  mirrors : table.Mirrors memory
  early : memory.Early

theorem twins_empty : Twins {} {} :=
  ⟨mirrors_empty, fun _ member => absurd member List.not_mem_nil⟩

theorem Twins.answer (twins : table.Twins memory) (regular : operation.Regular memory) :
    operation.answer table = operation.answer memory := by
  have concurs := twins.mirrors.attempt twins.early regular
  unfold StoreOperation.answer
  revert concurs
  generalize operation.attempt table = onTable
  generalize operation.attempt memory = inMemory
  intro concurs
  cases concurs with
  | accepted sameAnswer _ => exact congrArg Except.ok sameAnswer
  | refused => rfl

theorem Twins.after (twins : table.Twins memory) (regular : operation.Regular memory) :
    (operation.after table).Twins (operation.after memory) := by
  have concurs := twins.mirrors.attempt twins.early regular
  cases onTable : operation.attempt table with
  | error error =>
      rw [onTable] at concurs
      cases inMemory : operation.attempt memory with
      | error error => rw [after_of_error onTable, after_of_error inMemory]; exact twins
      | ok answered => rw [inMemory] at concurs; cases concurs
  | ok left =>
      rw [onTable] at concurs
      cases inMemory : operation.attempt memory with
      | error error => rw [inMemory] at concurs; cases concurs
      | ok right =>
          rw [inMemory] at concurs
          cases concurs with
          | accepted _ mirrors =>
              rw [after_of_ok onTable, after_of_ok inMemory]
              exact ⟨mirrors, twins.early.of_attempt regular inMemory⟩

theorem Twins.course (twins : table.Twins memory) {before : List StoreOperation}
    (regular : RegularCourse memory (before ++ [operation])) :
    (course table before).Twins (course memory before) ∧
      operation.Regular (course memory before) := by
  induction before generalizing table memory with
  | nil => exact ⟨twins, regular.1⟩
  | cons first later induction => exact induction (twins.after regular.1) regular.2

end TableStore

/-! ## Operations that are turned down -/

theorem MemoryStore.eq_of_alreadyExists {memory next : MemoryStore} {record : Redemption}
    (taken : memory.create record = (.alreadyExists, next)) : next = memory := by
  unfold create at taken
  split at taken <;> cases taken
  rfl

theorem TableStore.eq_of_alreadyExists {table next : TableStore} {record : Redemption}
    (taken : table.create record = (.alreadyExists, next)) : next = table := by
  unfold create at taken
  split at taken <;> cases taken
  rfl

theorem StoreOperation.after_of_turnsDown {σ : Type} [Store σ] {store : σ}
    {operation : StoreOperation}
    (keeps : ∀ record next, Store.create store record = .ok (.alreadyExists, next) → next = store)
    (turnsDown : operation.TurnsDown (operation.answer store)) :
    operation.after store = store := by
  cases attempted : operation.attempt store with
  | error error => exact after_of_error attempted
  | ok answered =>
      rcases answered with ⟨result, next⟩
      rw [answer, attempted] at turnsDown
      rw [after_of_ok attempted]
      cases operation with
      | create record =>
          cases (show result = .alreadyExists from turnsDown)
          exact keeps record next attempted
      | update | get | withStatus | delete | countByStatus => exact absurd turnsDown id

/-! ## The order of lists -/

def NotAfter {Time : Type} [LinearOrder Time] (left right : Time × String) : Prop :=
  left.1 < right.1 ∨ left.1 = right.1 ∧ left.2 ≤ right.2

namespace NotAfter

variable {Time : Type} [LinearOrder Time] {first second third left right : Time × String}

theorem trans (earlier : NotAfter first second) (later : NotAfter second third) :
    NotAfter first third := by
  rcases earlier with earlier | ⟨sameTime, smaller⟩
  · rcases later with later | ⟨sameTime, -⟩
    · exact .inl (lt_trans earlier later)
    · exact .inl (sameTime ▸ earlier)
  · rcases later with later | ⟨sameTime', smaller'⟩
    · exact .inl (sameTime ▸ later)
    · exact .inr ⟨sameTime.trans sameTime', String.le_trans smaller smaller'⟩

theorem total (left right : Time × String) : NotAfter left right ∨ NotAfter right left := by
  rcases lt_trichotomy left.1 right.1 with earlier | sameTime | later
  · exact .inl (.inl earlier)
  · exact (String.le_total left.2 right.2).imp (fun smaller => .inr ⟨sameTime, smaller⟩)
      (fun smaller => .inr ⟨sameTime.symm, smaller⟩)
  · exact .inr (.inl later)

theorem before_of_ne (notAfter : NotAfter left right) (different : left.2 ≠ right.2) :
    left.1 < right.1 ∨ left.1 = right.1 ∧ left.2 < right.2 := by
  refine notAfter.imp_right fun ⟨sameTime, smaller⟩ => ⟨sameTime, ?_⟩
  by_contra notSmaller
  exact different (String.le_antisymm smaller notSmaller)

theorem id_eq (forth : NotAfter left right) (back : NotAfter right left) : left.2 = right.2 := by
  rcases forth with earlier | ⟨sameTime, smaller⟩
  · rcases back with later | ⟨sameTime, -⟩
    · exact absurd later (lt_asymm earlier)
    · exact absurd earlier (sameTime ▸ lt_irrefl _)
  · rcases back with later | ⟨-, smaller'⟩
    · exact absurd later (sameTime ▸ lt_irrefl _)
    · exact String.le_antisymm smaller smaller'

end NotAfter

namespace MemoryStore

/-- Made earlier, or at the same time and with the smaller identifier. -/
def Older (left right : Redemption) : Prop :=
  left.dates.createdAt < right.dates.createdAt ∨
    left.dates.createdAt = right.dates.createdAt ∧ left.id < right.id

theorem olderOrEqual_iff {left right : Redemption} :
    olderOrEqual left right = true ↔
      NotAfter (left.dates.createdAt, left.id) (right.dates.createdAt, right.id) := by
  simp [olderOrEqual, NotAfter]

theorem olderOrEqual_trans (first second third : Redemption)
    (left : olderOrEqual first second = true) (right : olderOrEqual second third = true) :
    olderOrEqual first third = true :=
  olderOrEqual_iff.mpr ((olderOrEqual_iff.mp left).trans (olderOrEqual_iff.mp right))

theorem olderOrEqual_total (left right : Redemption) :
    (olderOrEqual left right || olderOrEqual right left) = true := by
  rw [Bool.or_eq_true, olderOrEqual_iff, olderOrEqual_iff]
  exact NotAfter.total _ _

theorem pairwise_withStatus (memory : MemoryStore) (status : Status) (chain : Option String) :
    (memory.withStatus status chain).Pairwise Older := by
  have inOrder := List.pairwise_mergeSort olderOrEqual_trans olderOrEqual_total
    ((memory.matching chain).filter (·.status = status))
  have distinct : (memory.withStatus status chain).Pairwise fun left right =>
      left.id ≠ right.id := by
    have listed : (memory.withStatus status chain).Perm
        ((memory.matching chain).filter (·.status = status)) := List.mergeSort_perm _ _
    refine (listed.pairwise_iff fun different => different.symm).mpr ?_
    exact (List.pairwise_map.mp memory.distinct).sublist
      (List.filter_sublist.trans List.filter_sublist)
  exact (inOrder.and distinct).imp fun both => (olderOrEqual_iff.mp both.1).before_of_ne both.2

end MemoryStore

/-! ## Interchange -/

/-- The operation is answered alike; if it is turned down nothing changes, and
what is listed comes in order. -/
structure StoreOperation.Interchanges (operation : StoreOperation) (table : TableStore)
    (memory : MemoryStore) : Prop where
  sameAnswer : operation.answer table = operation.answer memory
  unchanged : operation.TurnsDown (operation.answer memory) →
    operation.after table = table ∧ operation.after memory = memory
  inOrder : ∀ status chain records,
    (StoreOperation.withStatus status chain).answer memory = .ok records →
      records.Pairwise MemoryStore.Older

theorem stores_interchange (before : List StoreOperation) (operation : StoreOperation)
    (regular : RegularCourse {} (before ++ [operation])) :
    operation.Interchanges (course {} before) (course {} before) := by
  rcases TableStore.twins_empty.course regular with ⟨twins, regularHere⟩
  have sameAnswer := twins.answer regularHere
  constructor
  · exact sameAnswer
  · intro turnsDown
    constructor
    · exact after_of_turnsDown
        (fun _ _ taken => TableStore.eq_of_alreadyExists (Except.ok.inj taken))
        (sameAnswer ▸ turnsDown)
    · exact after_of_turnsDown
        (fun _ _ taken => MemoryStore.eq_of_alreadyExists (Except.ok.inj taken)) turnsDown
  · rintro status chain records listed
    cases listed
    exact MemoryStore.pairwise_withStatus _ status chain

/-- A claim has been stored, and the record is written again as it was before. -/
theorem stores_interchange_at_conflict :
    let record := Redemption.observed "sepolia"
      { walletPubKeyHash := "", mainUtxo := ⟨"ü", 1, 2⟩, redeemerOutputScript := "0x76",
        amount := 5, sourceTxHash := "0xa1" } 7 8
    let before : List StoreOperation := [.create record, .update (record.claim 10 9) 0]
    let operation : StoreOperation := .update record 0
    RegularCourse {} (before ++ [operation]) ∧
      operation.Interchanges (course {} before) (course {} before) ∧
      operation.answer (course ({} : MemoryStore) before) =
        .error (.versionConflict "0xa1" 0) := by
  intro record before operation
  have regular : RegularCourse {} (before ++ [operation]) := by decide +kernel
  exact ⟨regular, stores_interchange before operation regular, by decide +kernel⟩

end RedemptionRelay
