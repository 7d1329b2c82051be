import Mathlib.Data.Int.Order.Basic
import Mathlib.Data.List.Pairwise
import Mathlib.Data.List.Perm.Basic
import RedemptionRelay.Proofs.Store.Interchange
import RedemptionRelay.Store.Table.Affinity

/-! # Rows that stand for no record

A table may hold anything in any cell. The rows that stand for records are
listed in the order of their cells, and no other row has a part in that. Nor
has it in an update of a record that was listed: two tables that differ in
undecodable rows only answer it alike, and it leaves those rows alone.
-/

namespace RedemptionRelay

/-! ## What is read from a row -/

theorem Status.text_of_ofText? {text : String} {status : Status}
    (reads : ofText? text = some status) : text = status.text := by
  have found : all.find? (·.text == text) = some status := reads
  have same := List.find?_some found
  exact (beq_iff_eq.mp same).symm

theorem Cell.text?_eq_some {cell : Cell} {content : String} (reads : cell.text? = some content) :
    cell = .text content := by
  cases cell <;> cases reads
  rfl

theorem Cell.unsigned?_eq_some {cell : Cell} {bound number : Nat}
    (reads : cell.unsigned? bound = some number) :
    ∃ value, cell = .integer value ∧ number = unsigned bound value := by
  cases cell <;> cases reads
  exact ⟨_, rfl, rfl⟩

def Cell.fits : Cell → Bool
  | .integer value => fitsInteger value
  | _ => true

theorem Cell.signed64_unsigned {value : Int} (fits : (Cell.integer value).fits = true) :
    signed64 (unsigned Width.bound64 value) = value := by
  simp only [Cell.fits, fitsInteger, Bool.and_eq_true, decide_eq_true_eq] at fits
  unfold signed64 unsigned
  unfold Width.signedBound64 at *
  unfold Width.bound64
  split <;> omega

namespace Row

def isDecodable (row : Row) : Bool :=
  row.record?.isSome

def isOf (status : Status) (chain : Option String) (row : Row) : Bool :=
  row.record?.any fun record => record.status = status && matchesChain chain record.chain

/-- The cells by which rows are chosen and put in order are those of the record. -/
structure Stands (row : Row) (record : Redemption) : Prop where
  id : row.id = .text record.id
  chain : row.chainName = .text record.chain
  status : row.status = .text record.status.text
  createdAt : ∃ time, row.createdAt = .integer time ∧
    record.dates.createdAt = Cell.unsigned Width.bound64 time

def Precedes (left right : Row) : Prop :=
  ∃ leftTime leftId rightTime rightId, left.createdAt = .integer leftTime ∧
    left.id = .text leftId ∧ right.createdAt = .integer rightTime ∧ right.id = .text rightId ∧
      (leftTime < rightTime ∨ leftTime = rightTime ∧ leftId < rightId)

variable {row : Row} {record : Redemption}

theorem createdAt_of_dates? {dates : Dates} (reads : row.dates? = some dates) :
    ∃ time, row.createdAt = .integer time ∧
      dates.createdAt = Cell.unsigned Width.bound64 time := by
  simp only [dates?, bind, Option.bind_eq_some_iff] at reads
  rcases reads with ⟨createdAt, readsCreated, _, -, _, -, _, -, _, -, made⟩
  cases made
  exact Cell.unsigned?_eq_some readsCreated

theorem stands_of_record? (decodes : row.record? = some record) : row.Stands record := by
  rcases Option.bind_eq_some_iff.mp decodes with ⟨id, readsId, decodes⟩
  rcases Option.bind_eq_some_iff.mp decodes with ⟨chain, readsChain, decodes⟩
  rcases Option.bind_eq_some_iff.mp decodes with ⟨event, -, decodes⟩
  rcases Option.bind_eq_some_iff.mp decodes with ⟨payload, -, decodes⟩
  rcases Option.bind_eq_some_iff.mp decodes with ⟨attestation, -, decodes⟩
  rcases Option.bind_eq_some_iff.mp decodes with ⟨settlement, -, decodes⟩
  rcases Option.bind_eq_some_iff.mp decodes with ⟨status, readsStatus, decodes⟩
  rcases Option.bind_eq_some_iff.mp decodes with ⟨error, -, decodes⟩
  rcases Option.bind_eq_some_iff.mp decodes with ⟨retryCount, -, decodes⟩
  rcases Option.bind_eq_some_iff.mp decodes with ⟨lease, -, decodes⟩
  rcases Option.bind_eq_some_iff.mp decodes with ⟨version, -, decodes⟩
  rcases Option.bind_eq_some_iff.mp decodes with ⟨dates, readsDates, decodes⟩
  rcases Option.bind_eq_some_iff.mp decodes with ⟨logs, -, made⟩
  cases made
  rcases Option.bind_eq_some_iff.mp readsStatus with ⟨text, readsText, isStatus⟩
  exact ⟨Cell.text?_eq_some readsId, Cell.text?_eq_some readsChain,
    Status.text_of_ofText? isStatus ▸ Cell.text?_eq_some readsText,
    createdAt_of_dates? readsDates⟩

theorem exists_of_isDecodable (decodable : row.isDecodable = true) :
    ∃ record, row.record? = some record ∧ row.Stands record := by
  rcases Option.isSome_iff_exists.mp decodable with ⟨record, decodes⟩
  exact ⟨record, decodes, stands_of_record? decodes⟩

theorem isDecodable_of_isOf {status : Status} {chain : Option String}
    (isOf : row.isOf status chain = true) : row.isDecodable = true := by
  unfold Row.isOf at isOf
  unfold isDecodable
  cases decodes : row.record? with
  | none => rw [decodes] at isOf; cases isOf
  | some record => rfl

theorem Stands.isOfChain (stands : row.Stands record) (chain : Option String) :
    TableStore.isOfChain chain row = matchesChain chain record.chain := by
  cases chain with
  | none => rfl
  | some name =>
      simp [TableStore.isOfChain, matchesChain, stands.chain, Bool.beq_eq_decide_eq]

theorem Stands.chosen (stands : row.Stands record) (status : Status) (chain : Option String) :
    (decide (row.status = .text status.text) && TableStore.isOfChain chain row) =
      (decide (record.status = status) && matchesChain chain record.chain) := by
  have sameStatus : record.status.text = status.text ↔ record.status = status :=
    ⟨Status.text_inj, congrArg Status.text⟩
  rw [stands.isOfChain, stands.status]
  simp [sameStatus]

end Row

namespace TableStore

/-! ## What the database sees to -/

/-- No identifier occurs twice, unless it is missing, and times have 64 bits. -/
structure WellKept (table : TableStore) : Prop where
  distinct : table.rows.Pairwise fun left right => left.id = right.id → left.id = .null
  times : ∀ row ∈ table.rows, row.createdAt.fits = true

def decodable (table : TableStore) : List Row :=
  table.rows.filter Row.isDecodable

/-- The records are those of the rows that stand for records in this state and
of this chain, each of them once and in the order of the columns. -/
def Lists (table : TableStore) (status : Status) (chain : Option String)
    (records : List Redemption) : Prop :=
  ∃ rows : List Row, rows.Perm (table.rows.filter (Row.isOf status chain)) ∧
    rows.Pairwise Row.Precedes ∧ rows.map Row.record? = records.map some

theorem olderOrEqual_iff {left right : Redemption} :
    olderOrEqual left right = true ↔
      NotAfter (Cell.signed64 left.dates.createdAt, left.id)
        (Cell.signed64 right.dates.createdAt, right.id) := by
  simp [olderOrEqual, NotAfter]

theorem pairwise_withStatus (table : TableStore) (status : Status) (chain : Option String) :
    (table.withStatus status chain).Pairwise fun left right => olderOrEqual left right = true := by
  refine List.pairwise_mergeSort (fun _ _ _ left right => ?_) (fun _ _ => ?_) _
  · exact olderOrEqual_iff.mpr ((olderOrEqual_iff.mp left).trans (olderOrEqual_iff.mp right))
  · rw [Bool.or_eq_true, olderOrEqual_iff, olderOrEqual_iff]
    exact NotAfter.total _ _

theorem perm_withStatus (table : TableStore) (status : Status) (chain : Option String) :
    ((table.withStatus status chain).map some).Perm
      ((table.rows.filter (Row.isOf status chain)).map Row.record?) := by
  refine ((List.mergeSort_perm _ _).map some).trans (.of_eq ?_)
  induction table.rows with
  | nil => rfl
  | cons row rows induction =>
      cases decodes : row.record? with
      | none =>
          have notOf : row.isOf status chain = false := by rw [Row.isOf, decodes]; rfl
          simpa [List.filterMap_filter, notOf, decodes] using induction
      | some record =>
          have chosen := (Row.stands_of_record? decodes).chosen status chain
          have isOf : row.isOf status chain =
              (decide (row.status = .text status.text) && isOfChain chain row) := by
            rw [Row.isOf, decodes, Option.any_some, ← chosen]
          rw [List.filter_cons, List.filter_cons, isOf]
          split
          · simp only [List.filterMap_cons, List.map_cons, decodes]
            exact congrArg (some record :: ·) induction
          · exact induction

theorem lists_withStatus {table : TableStore} (kept : table.WellKept) (status : Status)
    (chain : Option String) : table.Lists status chain (table.withStatus status chain) := by
  have listed : Relation.Comp (fun images rows => images = List.map Row.record? rows) List.Perm
      ((table.withStatus status chain).map some)
      (table.rows.filter (Row.isOf status chain)) := by
    rw [List.eq_map_comp_perm]
    exact table.perm_withStatus status chain
  rcases listed with ⟨rows, sameRecords, sameRows⟩
  have among {row : Row} (there : row ∈ rows) : row ∈ table.rows ∧ row.isOf status chain = true :=
    List.mem_filter.mp (sameRows.mem_iff.mp there)
  have distinct : rows.Pairwise fun left right => left.id = right.id → left.id = .null := by
    refine (sameRows.pairwise_iff fun {left right} different same => ?_).mpr
      (kept.distinct.sublist List.filter_sublist)
    exact same.trans (different same.symm)
  have inOrder : rows.Pairwise fun left right => ∀ leftRecord rightRecord,
      left.record? = some leftRecord → right.record? = some rightRecord →
        olderOrEqual leftRecord rightRecord = true := by
    have records : ((table.withStatus status chain).map some).Pairwise fun left right =>
        ∀ leftRecord rightRecord, left = some leftRecord → right = some rightRecord →
          olderOrEqual leftRecord rightRecord = true := by
      refine List.pairwise_map.mpr ((table.pairwise_withStatus status chain).imp ?_)
      rintro left right older _ _ ⟨⟩ ⟨⟩
      exact older
    rw [sameRecords] at records
    exact List.pairwise_map.mp records
  refine ⟨rows, sameRows, (inOrder.and distinct).imp_of_mem ?_, sameRecords.symm⟩
  rintro left right leftThere rightThere ⟨older, different⟩
  rcases Row.exists_of_isDecodable (Row.isDecodable_of_isOf (among leftThere).2) with
    ⟨leftRecord, leftIs, leftStands⟩
  rcases Row.exists_of_isDecodable (Row.isDecodable_of_isOf (among rightThere).2) with
    ⟨rightRecord, rightIs, rightStands⟩
  rcases leftStands.createdAt with ⟨leftTime, leftCell, leftCreated⟩
  rcases rightStands.createdAt with ⟨rightTime, rightCell, rightCreated⟩
  have notAfter := olderOrEqual_iff.mp (older _ _ leftIs rightIs)
  rw [leftCreated, rightCreated,
    Cell.signed64_unsigned (leftCell ▸ kept.times left (among leftThere).1),
    Cell.signed64_unsigned (rightCell ▸ kept.times right (among rightThere).1)] at notAfter
  refine ⟨leftTime, _, rightTime, _, leftCell, leftStands.id, rightCell, rightStands.id,
    notAfter.before_of_ne fun sameId => ?_⟩
  have null := different (by rw [leftStands.id, rightStands.id]; exact congrArg Cell.text sameId)
  rw [leftStands.id] at null
  cases null

/-! ## Rows that are rewritten -/

/-- The two hold the same records, in any order. -/
structure AgreesWith (left right : TableStore) : Prop where
  leftKept : left.WellKept
  rightKept : right.WellKept
  same : left.decodable.Perm right.decodable

def Names (table : TableStore) (id : String) : Prop :=
  ∃ row ∈ table.rows, row.isDecodable = true ∧ row.id = .text id

def rewritten (table : TableStore) (rewrite : Row → Row) : TableStore :=
  { table with rows := table.rows.map rewrite }

@[simp]
theorem rewritten_id (table : TableStore) : (table.rewritten fun row => row) = table := by
  simp [rewritten]

/-- No identifier is rewritten, and no row that stands for no record. -/
structure Spares (rewrite : Row → Row) (table : TableStore) : Prop where
  id : ∀ row, (rewrite row).id = row.id
  undecodable : ∀ row ∈ table.rows, row.isDecodable = false → rewrite row = row

def written (record : Redemption) (expected : Nat) (row : Row) : Row :=
  if isVersion row record.id expected then row.updated { record with version := expected + 1 }
  else row

variable {table left right : TableStore} {rewrite : Row → Row} {record : Redemption}
  {expected : Nat} {id : String} {row : Row}

theorem AgreesWith.names (agree : left.AgreesWith right) (named : left.Names id) :
    right.Names id := by
  rcases named with ⟨row, there, decodable, sameId⟩
  have thereToo := agree.same.mem_iff.mp (List.mem_filter.mpr ⟨there, decodable⟩)
  exact ⟨row, (List.mem_filter.mp thereToo).1, decodable, sameId⟩

theorem names_of_listed {status : Status} {chain : Option String}
    (listed : record ∈ table.withStatus status chain) : table.Names record.id := by
  rcases List.mem_filterMap.mp (List.mem_mergeSort.mp listed) with ⟨row, there, decodes⟩
  exact ⟨row, List.mem_of_mem_filter there, Option.isSome_of_mem decodes,
    (Row.stands_of_record? decodes).id⟩

theorem WellKept.isDecodable_of_id (kept : table.WellKept) (named : table.Names id)
    (there : row ∈ table.rows) (sameId : row.id = .text id) : row.isDecodable = true := by
  rcases named with ⟨other, otherThere, decodable, sameId'⟩
  by_cases same : row = other
  · exact same ▸ decodable
  · have symmetric : Std.Symm fun left right : Row => left.id = right.id → left.id = .null :=
      ⟨fun left right different equal => equal.trans (different equal.symm)⟩
    have null := kept.distinct.forall there otherThere same (sameId.trans sameId'.symm)
    rw [sameId] at null
    cases null

namespace Spares

theorem refl (table : TableStore) : Spares (fun row => row) table :=
  ⟨fun _ => rfl, fun _ _ _ => rfl⟩

theorem isDecodable (spares : Spares rewrite table) (there : row ∈ table.rows) :
    (rewrite row).isDecodable = ((rewrite row).isDecodable && row.isDecodable) := by
  cases decodable : row.isDecodable with
  | true => rw [Bool.and_true]
  | false => rw [spares.undecodable row there decodable, decodable, Bool.and_false]

theorem decodable (spares : Spares rewrite table) :
    (table.rewritten rewrite).decodable =
      (table.decodable.map rewrite).filter Row.isDecodable := by
  unfold TableStore.decodable rewritten
  rw [List.filter_map, List.filter_map, List.filter_filter]
  exact congrArg (List.map rewrite) (List.filter_congr fun row there => spares.isDecodable there)

theorem names (spares : Spares rewrite table) (named : (table.rewritten rewrite).Names id) :
    table.Names id := by
  rcases named with ⟨row, there, decodable, sameId⟩
  rcases List.mem_map.mp there with ⟨original, inTable, rfl⟩
  rw [spares.isDecodable inTable, Bool.and_eq_true] at decodable
  exact ⟨original, inTable, decodable.2, (spares.id original).symm.trans sameId⟩

theorem distinct (spares : Spares rewrite table) (kept : table.WellKept) :
    (table.rewritten rewrite).rows.Pairwise fun left right =>
      left.id = right.id → left.id = .null := by
  refine List.pairwise_map.mpr (kept.distinct.imp fun {left right} different => ?_)
  rw [spares.id, spares.id]
  exact different

theorem perm_decodable (agree : left.AgreesWith right) (leftSpares : Spares rewrite left)
    (rightSpares : Spares rewrite right) :
    (left.rewritten rewrite).decodable.Perm (right.rewritten rewrite).decodable := by
  rw [leftSpares.decodable, rightSpares.decodable]
  exact (agree.same.map rewrite).filter _

theorem written (spares : Spares rewrite table) (kept : table.WellKept)
    (named : table.Names record.id) :
    Spares (TableStore.written record expected ∘ rewrite) table where
  id row := by
    rw [← spares.id row]
    dsimp only [Function.comp, TableStore.written]
    split <;> rfl
  undecodable row there undecodable := by
    dsimp only [Function.comp]
    rw [spares.undecodable row there undecodable]
    refine if_neg fun isVersion => ?_
    have sameId : row.id = .text record.id := by
      simp only [TableStore.isVersion, Bool.and_eq_true, decide_eq_true_eq] at isVersion
      exact isVersion.1
    rw [kept.isDecodable_of_id named there sameId] at undecodable
    cases undecodable

theorem any_isVersion (spares : Spares rewrite table) (kept : table.WellKept)
    (named : table.Names id) :
    (table.rewritten rewrite).rows.any (isVersion · id expected) =
      table.decodable.any fun row => isVersion (rewrite row) id expected := by
  unfold TableStore.decodable rewritten
  rw [List.any_map, List.any_filter, Bool.eq_iff_iff, List.any_eq_true, List.any_eq_true]
  refine exists_congr fun row => and_congr_right fun there => ?_
  rw [Bool.and_eq_true, Function.comp]
  refine ⟨fun isVersion => ⟨?_, isVersion⟩, And.right⟩
  simp only [TableStore.isVersion, Bool.and_eq_true, decide_eq_true_eq] at isVersion
  exact kept.isDecodable_of_id named there ((spares.id row).symm.trans isVersion.1)

theorem update (spares : Spares rewrite table) (kept : table.WellKept)
    (named : table.Names record.id) (expected : Nat) :
    (table.rewritten rewrite).update record expected =
      if table.decodable.any fun row => isVersion (rewrite row) record.id expected then
        .ok (expected + 1, table.rewritten (TableStore.written record expected ∘ rewrite))
      else .error (.versionConflict record.id expected) := by
  have present : ((table.rewritten rewrite).rowsOf record.id).isEmpty = false := by
    rcases named with ⟨row, there, -, sameId⟩
    refine List.isEmpty_eq_false_iff_exists_mem.mpr ⟨rewrite row, List.mem_filter.mpr ?_⟩
    exact ⟨List.mem_map_of_mem there, decide_eq_true ((spares.id row).trans sameId)⟩
  unfold TableStore.update
  rw [spares.any_isVersion kept named, present]
  dsimp only
  congr 1
  unfold rewritten
  rw [List.map_map]
  rfl

end Spares

/-! ## Answers that do not depend on undecodable rows -/

theorem eq_of_listed {status : Status} {chain : Option String}
    (distinct : table.rows.Pairwise fun left right => left.id = right.id → left.id = .null)
    {first second : Redemption} (firstListed : first ∈ table.withStatus status chain)
    (secondListed : second ∈ table.withStatus status chain) (sameId : first.id = second.id) :
    first = second := by
  have different : (table.withStatus status chain).Pairwise fun left right => left.id ≠ right.id := by
    refine ((List.mergeSort_perm _ _).pairwise_iff fun different => different.symm).mpr ?_
    refine List.pairwise_filterMap.mpr ((distinct.sublist List.filter_sublist).imp ?_)
    intro left right different leftRecord leftDecodes rightRecord rightDecodes same
    have leftId := (Row.stands_of_record? leftDecodes).id
    have rightId := (Row.stands_of_record? rightDecodes).id
    have null := different (by rw [leftId, rightId, same])
    rw [leftId] at null
    cases null
  have symmetric : Std.Symm fun left right : Redemption => left.id ≠ right.id :=
    ⟨fun left right different => different.symm⟩
  by_contra other
  exact different.forall firstListed secondListed other sameId

theorem withStatus_of_decodable (status : Status) (chain : Option String) :
    table.withStatus status chain =
      ((table.decodable.filter fun row =>
        row.status = .text status.text && isOfChain chain row).filterMap Row.record?).mergeSort
          olderOrEqual := by
  unfold withStatus decodable
  dsimp only
  rw [List.filter_filter, List.filterMap_filter, List.filterMap_filter]
  refine congrArg (List.mergeSort · olderOrEqual) (List.filterMap_congr fun row _ => ?_)
  cases decodes : row.record? with
  | none => simp
  | some record => simp [Row.isDecodable, decodes]

theorem withStatus_of_perm
    (distinct : left.rows.Pairwise fun left right => left.id = right.id → left.id = .null)
    (same : left.decodable.Perm right.decodable) (status : Status) (chain : Option String) :
    left.withStatus status chain = right.withStatus status chain := by
  have listed : (left.withStatus status chain).Perm (right.withStatus status chain) := by
    rw [withStatus_of_decodable, withStatus_of_decodable]
    refine (List.mergeSort_perm _ _).trans (.trans ?_ (List.mergeSort_perm _ _).symm)
    exact (same.filter _).filterMap _
  refine listed.eq_of_pairwise ?_ (left.pairwise_withStatus status chain)
    (right.pairwise_withStatus status chain)
  intro first second firstListed secondListed forth back
  refine eq_of_listed distinct firstListed (listed.mem_iff.mpr secondListed) ?_
  exact (olderOrEqual_iff.mp forth).id_eq (olderOrEqual_iff.mp back)

end TableStore

end RedemptionRelay
