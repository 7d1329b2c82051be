import RedemptionRelay.Store.Table
import RedemptionRelay.Store.Table.Affinity

/-! # Writing single cells

A table can be changed by others than the store. Each column has an affinity,
and some take no null.
-/

namespace RedemptionRelay

inductive Column where
  | id
  | chainName
  | event
  | attestationPayload
  | attestationState
  | settlementTxHash
  | status
  | error
  | retryCount
  | leaseExpiresAt
  | version
  | createdAt
  | attestationFetchedAt
  | settlementSubmittedAt
  | completedAt
  | lastActivityAt
  | logs
deriving DecidableEq, Repr

namespace Column

def all : List Column :=
  [.id, .chainName, .event, .attestationPayload, .attestationState, .settlementTxHash, .status,
    .error, .retryCount, .leaseExpiresAt, .version, .createdAt, .attestationFetchedAt,
    .settlementSubmittedAt, .completedAt, .lastActivityAt, .logs]

def name : Column → String
  | .id => "id"
  | .chainName => "chain_name"
  | .event => "event"
  | .attestationPayload => "attestation_payload"
  | .attestationState => "attestation_state"
  | .settlementTxHash => "settlement_tx_hash"
  | .status => "status"
  | .error => "error"
  | .retryCount => "retry_count"
  | .leaseExpiresAt => "lease_expires_at"
  | .version => "version"
  | .createdAt => "created_at"
  | .attestationFetchedAt => "attestation_fetched_at"
  | .settlementSubmittedAt => "settlement_submitted_at"
  | .completedAt => "completed_at"
  | .lastActivityAt => "last_activity_at"
  | .logs => "logs"

def ofName? (name : String) : Option Column :=
  all.find? (·.name == name)

def affinity : Column → Affinity
  | .id | .chainName | .event | .attestationState | .settlementTxHash | .status | .error
  | .logs => .text
  | .attestationPayload => .free
  | _ => .integer

def isNullable : Column → Bool
  | .id | .attestationPayload | .settlementTxHash | .error | .leaseExpiresAt
  | .attestationFetchedAt | .settlementSubmittedAt | .completedAt => true
  | _ => false

def set (column : Column) (row : Row) (cell : Cell) : Row :=
  match column with
  | .id => { row with id := cell }
  | .chainName => { row with chainName := cell }
  | .event => { row with event := cell }
  | .attestationPayload => { row with attestationPayload := cell }
  | .attestationState => { row with attestationState := cell }
  | .settlementTxHash => { row with settlementTxHash := cell }
  | .status => { row with status := cell }
  | .error => { row with error := cell }
  | .retryCount => { row with retryCount := cell }
  | .leaseExpiresAt => { row with leaseExpiresAt := cell }
  | .version => { row with version := cell }
  | .createdAt => { row with createdAt := cell }
  | .attestationFetchedAt => { row with attestationFetchedAt := cell }
  | .settlementSubmittedAt => { row with settlementSubmittedAt := cell }
  | .completedAt => { row with completedAt := cell }
  | .lastActivityAt => { row with lastActivityAt := cell }
  | .logs => { row with logs := cell }

end Column

inductive ConstraintError where
  | nullNotAllowed (column : Column)
  | duplicateId
deriving DecidableEq, Repr

namespace TableStore

/-- Sets one cell of the row with this identifier and answers how many rows
changed. -/
def overwrite (store : TableStore) (id : String) (column : Column) (cell : Cell) :
    Except ConstraintError (Nat × TableStore) :=
  let kept := column.affinity.apply cell
  let touched := (store.rowsOf id).length
  if touched = 0 then .ok (0, store)
  else if kept = .null && !column.isNullable then .error (.nullNotAllowed column)
  else if column = .id && kept ≠ .null && kept ≠ .text id && store.rows.any (·.id = kept) then
    .error .duplicateId
  else
    let rows := store.rows.map fun row => if row.id = .text id then column.set row kept else row
    .ok (touched, { store with rows := rows })

end TableStore

end RedemptionRelay
