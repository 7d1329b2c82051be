import RedemptionRelay.Store
import RedemptionRelay.Store.Table.Row

/-! # The store in a table

Records are kept as rows. A row that stands for no record is an error when it
is asked for by its identifier and is passed over in lists. Rows are ordered by
their signed time of creation, then by identifier.
-/

namespace RedemptionRelay

structure TableStore where
  rows : List Row := []
  /-- What the database says about a row that stands for no record. -/
  rowFault : Row → String := fun _ => "row cannot be decoded"
  /-- What it says where a phase is not kept as a text. -/
  statusFault : List Cell → String := fun _ => "column cannot be decoded"

namespace TableStore

def rowsOf (store : TableStore) (id : String) : List Row :=
  store.rows.filter (·.id = .text id)

def create (store : TableStore) (record : Redemption) : Creation × TableStore :=
  if (store.rowsOf record.id).isEmpty then
    (.created, { store with rows := store.rows ++ [Row.ofRecord record] })
  else (.alreadyExists, store)

def isVersion (row : Row) (id : String) (expected : Nat) : Bool :=
  row.id = .text id && row.version = .ofNat expected

def update (store : TableStore) (record : Redemption) (expected : Nat) :
    Except StoreError (Nat × TableStore) :=
  if store.rows.any (isVersion · record.id expected) then
    let next := { record with version := expected + 1 }
    let rows := store.rows.map fun row =>
      if isVersion row record.id expected then row.updated next else row
    .ok (expected + 1, { store with rows := rows })
  else if (store.rowsOf record.id).isEmpty then .error (.notFound record.id)
  else .error (.versionConflict record.id expected)

def get? (store : TableStore) (id : String) : Except StoreError (Option Redemption) :=
  match store.rowsOf id with
  | [] => .ok none
  | row :: _ =>
      match row.record? with
      | some record => .ok (some record)
      | none => .error (.database (store.rowFault row))

def olderOrEqual (left right : Redemption) : Bool :=
  let leftTime := Cell.signed64 left.dates.createdAt
  let rightTime := Cell.signed64 right.dates.createdAt
  leftTime < rightTime || (leftTime == rightTime && left.id ≤ right.id)

def isOfChain (chain : Option String) (row : Row) : Bool :=
  match chain with
  | some name => row.chainName = .text name
  | none => true

def withStatus (store : TableStore) (status : Status) (chain : Option String) : List Redemption :=
  let rows := store.rows.filter fun row => row.status = .text status.text && isOfChain chain row
  (rows.filterMap Row.record?).mergeSort olderOrEqual

def delete (store : TableStore) (id : String) : Bool × TableStore :=
  (!(store.rowsOf id).isEmpty, { store with rows := store.rows.filter (·.id ≠ .text id) })

/-! Groups of equal phases are met in the order of their cells: numbers come
before texts, texts before bytes. The first group that is no phase decides. -/

def isBeforeText : Cell → Bool
  | .null | .integer _ | .real _ => true
  | _ => false

def statusTexts (cells : List Cell) : List String :=
  (cells.filterMap Cell.text?).mergeSort (fun left right => decide (left ≤ right))

def countByStatus (store : TableStore) (chain : Option String) : Except StoreError StatusCounts :=
  let cells := (store.rows.filter (isOfChain chain)).map (·.status)
  let texts := statusTexts cells
  if cells.any isBeforeText then .error (.database (store.statusFault cells))
  else
    match texts.find? (fun text => (Status.ofText? text).isNone) with
    | some unknown => .error (.invalidData (Status.unknownMessage unknown))
    | none =>
        if cells.any (fun cell => cell.text?.isNone) then
          .error (.database (store.statusFault cells))
        else .ok (tally (texts.filterMap Status.ofText?))

instance : Store TableStore where
  create store record := .ok (store.create record)
  update store record expected := store.update record expected
  get? store id := store.get? id
  withStatus store status chain := .ok (store.withStatus status chain)
  delete store id := .ok (store.delete id)
  countByStatus store chain := store.countByStatus chain

end TableStore

end RedemptionRelay
