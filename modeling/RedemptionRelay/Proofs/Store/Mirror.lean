import RedemptionRelay.Proofs.Store.Lawful
import RedemptionRelay.Proofs.Store.Rows
import RedemptionRelay.Store.Table

/-! # The table mirrors the memory

A table that holds the rows of the records in memory answers every operation
as the memory does, and holds the rows of what is in memory afterwards. So the
table is a lawful store too.
-/

namespace RedemptionRelay

theorem tally_of_perm {left right : List Status} (same : left.Perm right) :
    tally left = tally right := by
  simp only [tally, same.count_eq]

theorem MemoryStore.filter_id {records : List Redemption}
    (distinct : (records.map (·.id)).Nodup) (id : String) :
    (records.filter fun record => record.id = id) =
      (records.find? (·.id == id)).toList := by
  induction records with
  | nil => rfl
  | cons record rest induction =>
      rw [List.map_cons, List.nodup_cons] at distinct
      by_cases same : record.id = id
      · have nothingElse : (rest.filter fun record => record.id = id) = [] := by
          rw [List.filter_eq_nil_iff]
          intro other member
          simp only [decide_eq_true_eq]
          rintro rfl
          exact distinct.1 (same ▸ List.mem_map_of_mem member)
        simp [same, nothingElse]
      · simp [same, induction distinct.2]

namespace TableStore

/-- The rows of the records in memory, all of which fit. -/
structure Mirrors (table : TableStore) (memory : MemoryStore) : Prop where
  rows : table.rows = memory.records.map Row.ofRecord
  inRange : ∀ record ∈ memory.records, record.InRange

/-- Both accept with the same answer, or both refuse for the same reason. -/
inductive Concurs {α : Type} : Except StoreError (α × TableStore) →
    Except StoreError (α × MemoryStore) → Prop where
  | accepted {left : α × TableStore} {right : α × MemoryStore} (sameAnswer : left.1 = right.1)
      (mirrors : left.2.Mirrors right.2) : Concurs (.ok left) (.ok right)
  | refused {error : StoreError} : Concurs (.error error) (.error error)

namespace Concurs

variable {α : Type} {left : Except StoreError (α × TableStore)} {answer : α}
  {memory : MemoryStore}

theorem eq_ok (concurs : Concurs left (.ok (answer, memory))) :
    ∃ table, left = .ok (answer, table) ∧ table.Mirrors memory := by
  cases concurs with
  | @accepted left _ sameAnswer mirrors =>
      rcases left with ⟨answer', table⟩
      subst sameAnswer
      exact ⟨table, rfl, mirrors⟩

end Concurs

theorem mirrors_empty : Mirrors {} {} :=
  ⟨rfl, fun _ member => absurd member List.not_mem_nil⟩

theorem isOfChain_ofRecord (chain : Option String) (record : Redemption) :
    isOfChain chain (Row.ofRecord record) = matchesChain chain record.chain := by
  cases chain with
  | none => rfl
  | some name => simp [isOfChain, matchesChain, Row.ofRecord, Bool.beq_eq_decide_eq]

theorem any_isVersion (table : TableStore) (id : String) (expected : Nat) :
    table.rows.any (isVersion · id expected) =
      (table.rowsOf id).any fun row => row.version = .ofNat expected :=
  List.any_filter.symm

def record? (table : TableStore) (id : String) : Option Redemption :=
  (table.get? id).toOption.join

theorem countByStatus_of_texts {table : TableStore} {chain : Option String}
    {statuses : List Status}
    (cells : (table.rows.filter (isOfChain chain)).map (·.status) =
      statuses.map fun status => Cell.text status.text) :
    table.countByStatus chain = .ok (tally statuses) := by
  have noNumbers : (statuses.map fun status => Cell.text status.text).any isBeforeText = false := by
    simp [List.any_map, Function.comp_def, isBeforeText]
  have onlyTexts : (statuses.map fun status => Cell.text status.text).any
      (fun cell => cell.text?.isNone) = false := by
    simp [List.any_map, Function.comp_def, Cell.text?]
  have sameTexts : (statusTexts (statuses.map fun status => Cell.text status.text)).Perm
      (statuses.map (·.text)) := by
    rw [statusTexts, List.filterMap_map]
    exact (List.mergeSort_perm _ _).trans (.of_eq (congrFun List.filterMap_eq_map' statuses))
  have allKnown : (statusTexts (statuses.map fun status => Cell.text status.text)).find?
      (fun text => (Status.ofText? text).isNone) = none := by
    rw [List.find?_eq_none]
    intro text member
    rcases List.mem_map.mp (sameTexts.mem_iff.mp member) with ⟨status, -, rfl⟩
    simp [Status.ofText?_text]
  have sameStatuses : ((statusTexts (statuses.map fun status =>
      Cell.text status.text)).filterMap Status.ofText?).Perm statuses := by
    refine (sameTexts.filterMap Status.ofText?).trans (.of_eq ?_)
    rw [List.filterMap_map]
    exact (List.filterMap_congr fun status _ => Status.ofText?_text status).trans
      List.filterMap_some
  unfold TableStore.countByStatus
  simp only [cells, noNumbers, onlyTexts, allKnown, Bool.false_eq_true, if_false,
    tally_of_perm sameStatuses]

namespace Mirrors

variable {table : TableStore} {memory : MemoryStore} (mirrors : table.Mirrors memory)
  {record : Redemption} {expected : Nat} {id : String} {status : Status} {chain : Option String}
include mirrors

theorem inRange_of_find? (found : memory.find? id = some record) : record.InRange :=
  mirrors.inRange record (MemoryStore.find?_eq_some_iff.mp found).1

/-! ## Looking up -/

theorem rowsOf (id : String) : table.rowsOf id = (memory.find? id).toList.map Row.ofRecord := by
  have sameId : ((fun row : Row => decide (row.id = .text id)) ∘ Row.ofRecord) =
      fun record => decide (record.id = id) := by
    funext record
    simp [Row.ofRecord]
  rw [TableStore.rowsOf, mirrors.rows, List.filter_map, sameId,
    MemoryStore.filter_id memory.distinct]
  rfl

theorem isEmpty_rowsOf (id : String) :
    (table.rowsOf id).isEmpty = (memory.find? id).isNone := by
  rw [mirrors.rowsOf]
  cases memory.find? id <;> rfl

theorem get? (id : String) : table.get? id = .ok (memory.find? id) := by
  unfold TableStore.get?
  rw [mirrors.rowsOf]
  cases found : memory.find? id with
  | none => rfl
  | some record => simp [Row.record?_ofRecord (mirrors.inRange_of_find? found)]

/-! ## Adding and removing -/

theorem insert (fits : record.InRange) (absent : memory.find? record.id = none) :
    Mirrors { table with rows := table.rows ++ [Row.ofRecord record] }
      (memory.insert record absent) where
  rows := by
    show table.rows ++ [Row.ofRecord record] = (memory.records ++ [record]).map Row.ofRecord
    rw [mirrors.rows, List.map_append]
    rfl
  inRange := List.forall_mem_append.mpr ⟨mirrors.inRange, List.forall_mem_singleton.mpr fits⟩

theorem create (fits : record.InRange) :
    Concurs (.ok (table.create record)) (.ok (memory.create record)) := by
  unfold TableStore.create MemoryStore.create
  rw [mirrors.isEmpty_rowsOf]
  split
  · next vacant =>
      split
      · next taken => simp [taken] at vacant
      · next absent => exact .accepted rfl (mirrors.insert fits absent)
  · next taken =>
      split
      · exact .accepted rfl mirrors
      · next absent => simp [absent] at taken

theorem remove (id : String) :
    Mirrors { table with rows := table.rows.filter (·.id ≠ .text id) } (memory.remove id) where
  rows := by
    have sameId : ((fun row : Row => decide (row.id ≠ .text id)) ∘ Row.ofRecord) =
        fun record => decide (record.id ≠ id) := by
      funext record
      simp [Row.ofRecord]
    show table.rows.filter _ = (memory.records.filter _).map Row.ofRecord
    rw [mirrors.rows, List.filter_map, sameId]
  inRange record member := mirrors.inRange record (List.mem_of_mem_filter member)

theorem delete (id : String) : Concurs (.ok (table.delete id)) (.ok (memory.delete id)) := by
  refine .accepted ?_ (mirrors.remove id)
  show (!(table.rowsOf id).isEmpty) = (memory.find? id).isSome
  rw [mirrors.isEmpty_rowsOf, Option.not_isNone]

/-! ## Replacing -/

theorem any_isVersion (fits : expected < Width.bound64) (id : String) :
    table.rows.any (isVersion · id expected) =
      (memory.find? id).any (·.version = expected) := by
  rw [TableStore.any_isVersion, mirrors.rowsOf]
  cases found : memory.find? id with
  | none => rfl
  | some stored =>
      have storedFits : stored.version < Width.bound64 :=
        (mirrors.inRange_of_find? found).2.2.2.1
      have sameVersion : Cell.ofNat stored.version = Cell.ofNat expected ↔
          stored.version = expected :=
        ⟨Cell.ofNat_inj storedFits fits, congrArg Cell.ofNat⟩
      simp [Row.ofRecord, sameVersion]

theorem replace {stored next : Redemption} (same : next.SameRequest stored)
    (found : memory.find? next.id = some stored) (fits : next.InRange) :
    Mirrors
      { table with
        rows := table.rows.map fun row =>
          if isVersion row next.id stored.version then row.updated next else row }
      (memory.replace next) where
  rows := by
    show table.rows.map _ = (memory.records.map _).map Row.ofRecord
    rw [mirrors.rows, List.map_map, List.map_map]
    refine List.map_congr_left fun record member => ?_
    dsimp only [Function.comp_apply]
    by_cases sameId : record.id = next.id
    · have isStored : record = stored := by
        have here := MemoryStore.find?_eq_some_iff.mpr ⟨member, sameId⟩
        exact Option.some.inj (here.symm.trans found)
      subst isStored
      have isCurrent : isVersion (Row.ofRecord record) next.id record.version = true := by
        simp [isVersion, Row.ofRecord, sameId]
      rw [if_pos isCurrent, if_pos sameId, Row.updated_ofRecord same]
    · simp [isVersion, Row.ofRecord, sameId]
  inRange record member := by
    rcases List.mem_map.mp member with ⟨earlier, inMemory, rfl⟩
    split
    · exact fits
    · exact mirrors.inRange earlier inMemory

theorem update_of_vacant (vacant : memory.find? record.id = none) (expected : Nat) :
    table.update record expected = .error (.notFound record.id) := by
  have noRows : table.rowsOf record.id = [] := by
    rw [mirrors.rowsOf, vacant]
    rfl
  rw [TableStore.update, TableStore.any_isVersion, noRows]
  rfl

theorem update_of_stale {stored : Redemption} (fits : expected < Width.bound64)
    (found : memory.find? record.id = some stored) (stale : stored.version ≠ expected) :
    table.update record expected = .error (.versionConflict record.id expected) := by
  rw [TableStore.update, mirrors.any_isVersion fits, mirrors.isEmpty_rowsOf, found]
  simp [stale]

theorem update_of_current {stored : Redemption} (found : memory.find? record.id = some stored)
    (same : record.SameRequest stored)
    (fits : { record with version := stored.version + 1 }.InRange) :
    Concurs (table.update record stored.version) (memory.update record stored.version) := by
  have storedFits : stored.version < Width.bound64 := Nat.lt_of_succ_lt fits.2.2.2.1
  have sameNext : { record with version := stored.version + 1 }.SameRequest stored :=
    ⟨same.id, same.chain, same.event, same.createdAt⟩
  rw [TableStore.update, mirrors.any_isVersion storedFits, MemoryStore.update_of_find? found,
    found]
  simp only [Option.any_some, decide_true, if_true]
  exact .accepted rfl (mirrors.replace sameNext found fits)

theorem update (fits : { record with version := expected + 1 }.InRange)
    (same : ∀ stored, memory.find? record.id = some stored → record.SameRequest stored) :
    Concurs (table.update record expected) (memory.update record expected) := by
  cases found : memory.find? record.id with
  | none =>
      have notThere : memory.update record expected = .error (.notFound record.id) := by
        rw [MemoryStore.update, found]
      rw [mirrors.update_of_vacant found, notThere]
      exact .refused
  | some stored =>
      by_cases isCurrent : stored.version = expected
      · subst isCurrent
        exact mirrors.update_of_current found (same stored found) fits
      · have inWidth : expected < Width.bound64 := Nat.lt_of_succ_lt fits.2.2.2.1
        rw [mirrors.update_of_stale inWidth found isCurrent, MemoryStore.update_of_find? found,
          if_neg isCurrent]
        exact .refused

/-! ## Lists and counts -/

theorem matching (status : Status) (chain : Option String) :
    (table.rows.filter fun row =>
        row.status = .text status.text && isOfChain chain row).filterMap Row.record? =
      (memory.matching chain).filter (·.status = status) := by
  have sameRows : ((fun row : Row => decide (row.status = .text status.text) &&
        isOfChain chain row) ∘ Row.ofRecord) =
      fun record => decide (record.status = status) && matchesChain chain record.chain := by
    funext record
    have sameStatus : record.status.text = status.text ↔ record.status = status :=
      ⟨Status.text_inj, congrArg Status.text⟩
    simp only [Function.comp_apply, isOfChain_ofRecord]
    simp [Row.ofRecord, sameStatus]
  rw [mirrors.rows, List.filter_map, sameRows, MemoryStore.matching, List.filter_filter]
  exact Row.filterMap_record? fun record member =>
    mirrors.inRange record (List.mem_of_mem_filter member)

/-- Before the sign of the time turns, both stores put records in the same order. -/
theorem withStatus (early : ∀ record ∈ memory.records,
      record.dates.createdAt < Width.signedBound64) (status : Status) (chain : Option String) :
    table.withStatus status chain = memory.withStatus status chain := by
  have sameOrder : ∀ left ∈ (memory.matching chain).filter (·.status = status),
      ∀ right ∈ (memory.matching chain).filter (·.status = status),
        TableStore.olderOrEqual left right = MemoryStore.olderOrEqual (id left) (id right) := by
    intro left leftThere right rightThere
    have earlyLeft := early left (List.mem_of_mem_filter (List.mem_of_mem_filter leftThere))
    have earlyRight := early right (List.mem_of_mem_filter (List.mem_of_mem_filter rightThere))
    simp only [TableStore.olderOrEqual, MemoryStore.olderOrEqual, Cell.signed64, earlyLeft,
      earlyRight, if_true, Int.ofNat_lt, Bool.beq_eq_decide_eq, Int.ofNat_inj, id_eq]
  have sorted := List.map_mergeSort sameOrder
  rw [List.map_id, List.map_id] at sorted
  rw [TableStore.withStatus, mirrors.matching]
  exact sorted

theorem statuses (chain : Option String) :
    (table.rows.filter (isOfChain chain)).map (·.status) =
      ((memory.matching chain).map (·.status)).map fun status => Cell.text status.text := by
  have sameRows : isOfChain chain ∘ Row.ofRecord = fun record => matchesChain chain record.chain :=
    funext fun record => isOfChain_ofRecord chain record
  rw [mirrors.rows, List.filter_map, sameRows, List.map_map, List.map_map, MemoryStore.matching]
  rfl

theorem countByStatus (chain : Option String) :
    table.countByStatus chain = .ok (tally ((memory.matching chain).map (·.status))) :=
  countByStatus_of_texts (mirrors.statuses chain)

/-! ## What a table keeps -/

theorem record? (id : String) : table.record? id = memory.find? id := by
  rw [TableStore.record?, mirrors.get?]
  rfl

end Mirrors

end TableStore

/-- A table is in order if it holds the rows of records that fit. -/
instance : LawfulStore TableStore where
  Sound table := ∃ memory, table.Mirrors memory
  record? := TableStore.record?
  id_of_record? := by
    rintro table id record ⟨memory, mirrors⟩ found
    exact MemoryStore.id_of_find? ((mirrors.record? id).symm.trans found)
  create_of_vacant := by
    rintro table record ⟨memory, mirrors⟩ fits vacant
    have vacantThere : LawfulStore.record? memory record.id = none :=
      (mirrors.record? record.id).symm.trans vacant
    rcases LawfulStore.create_of_vacant trivial fits vacantThere with ⟨next, creates, -, view⟩
    have concurs : TableStore.Concurs _ (Store.create memory record) := mirrors.create fits
    rw [creates] at concurs
    rcases concurs.eq_ok with ⟨table', creates', mirrors'⟩
    refine ⟨table', creates', ⟨next, mirrors'⟩, fun id => ?_⟩
    rw [mirrors'.record?, mirrors.record?]
    exact view id
  create_of_taken := by
    rintro table record stored ⟨memory, mirrors⟩ taken
    have occupied : (table.rowsOf record.id).isEmpty = false := by
      rw [mirrors.isEmpty_rowsOf, ← mirrors.record?, taken]
      rfl
    show Except.ok (table.create record) = _
    rw [TableStore.create, occupied]
    rfl
  update_of_vacant := by
    rintro table record expected ⟨memory, mirrors⟩ vacant
    exact mirrors.update_of_vacant ((mirrors.record? _).symm.trans vacant) expected
  update_of_stale := by
    rintro table record stored expected ⟨memory, mirrors⟩ fits found stale
    exact mirrors.update_of_stale fits ((mirrors.record? _).symm.trans found) stale
  update_of_current := by
    rintro table record stored ⟨memory, mirrors⟩ fits found same
    have foundThere : LawfulStore.record? memory record.id = some stored :=
      (mirrors.record? record.id).symm.trans found
    rcases LawfulStore.update_of_current trivial fits foundThere same with
      ⟨next, updates, -, view⟩
    have concurs : TableStore.Concurs _ (Store.update memory record stored.version) :=
      mirrors.update_of_current foundThere same fits
    rw [updates] at concurs
    rcases concurs.eq_ok with ⟨table', updates', mirrors'⟩
    refine ⟨table', updates', ⟨next, mirrors'⟩, fun id => ?_⟩
    rw [mirrors'.record?, mirrors.record?]
    exact view id
  withStatus_of_sound := by
    rintro table status chain ⟨memory, mirrors⟩
    refine ⟨table.withStatus status chain, rfl, fun record => ?_⟩
    rw [TableStore.withStatus, mirrors.matching, List.mem_mergeSort, mirrors.record?]
    refine Iff.trans ?_ (MemoryStore.mem_withStatus status chain)
    rw [MemoryStore.withStatus, List.mem_mergeSort]

end RedemptionRelay
