import RedemptionRelay.Floating
import RedemptionRelay.Redemption.Json

/-! # Rows of the redemption table

Each column of a row holds a cell of any storage class, so a row need not be
the image of a record. Numbers of 64 bits are kept as signed integers with the
same bits.
-/

namespace RedemptionRelay

inductive Cell where
  | null
  | integer (value : Int)
  | real (number : Floating)
  | text (content : String)
  | blob (bytes : Bytes)
deriving DecidableEq, Repr, Inhabited

namespace Cell

def signed64 (value : Nat) : Int :=
  if value < Width.signedBound64 then value else value - Width.bound64

/-- The number below `bound` with the same low bits. -/
def unsigned (bound : Nat) (value : Int) : Nat :=
  (value % bound).toNat

def ofNat (value : Nat) : Cell :=
  .integer (signed64 value)

def ofOption {α : Type} (ofSome : α → Cell) : Option α → Cell
  | none => .null
  | some value => ofSome value

def text? : Cell → Option String
  | .text content => some content
  | _ => none

def blob? : Cell → Option Bytes
  | .blob bytes => some bytes
  | _ => none

def unsigned? (bound : Nat) : Cell → Option Nat
  | .integer value => some (unsigned bound value)
  | _ => none

def optional? {α : Type} (read : Cell → Option α) : Cell → Option (Option α)
  | .null => some none
  | cell => (read cell).map some

end Cell

structure Row where
  id : Cell
  chainName : Cell
  event : Cell
  attestationPayload : Cell
  attestationState : Cell
  settlementTxHash : Cell
  status : Cell
  error : Cell
  retryCount : Cell
  leaseExpiresAt : Cell
  version : Cell
  createdAt : Cell
  attestationFetchedAt : Cell
  settlementSubmittedAt : Cell
  completedAt : Cell
  lastActivityAt : Cell
  logs : Cell
deriving DecidableEq, Repr

namespace Row

def ofRecord (record : Redemption) : Row :=
  { id := .text record.id
    chainName := .text record.chain
    event := .text record.event.json.write
    attestationPayload := .ofOption .blob record.payload
    attestationState := .text record.attestation.text
    settlementTxHash := .ofOption .text record.settlement
    status := .text record.status.text
    error := .ofOption .text record.error
    retryCount := .ofNat record.retryCount
    leaseExpiresAt := .ofOption .ofNat record.leaseExpiresAt
    version := .ofNat record.version
    createdAt := .ofNat record.dates.createdAt
    attestationFetchedAt := .ofOption .ofNat record.dates.attestationFetchedAt
    settlementSubmittedAt := .ofOption .ofNat record.dates.settlementSubmittedAt
    completedAt := .ofOption .ofNat record.dates.completedAt
    lastActivityAt := .ofNat record.dates.lastActivityAt
    logs := .text (logsJson record.logs).write }

/-- Writes what an update may change: all but the identifier, the chain, the
event and the time of creation. -/
def updated (row : Row) (record : Redemption) : Row :=
  { Row.ofRecord record with
    id := row.id
    chainName := row.chainName
    event := row.event
    createdAt := row.createdAt }

def event? (row : Row) : Option Event := do
  let text ← row.event.text?
  let tree ← Json.Tree.ofText? text
  Event.ofJson? tree

def logs? (row : Row) : Option (List LogEntry) := do
  let text ← row.logs.text?
  let tree ← Json.Tree.ofText? text
  logsOfJson? tree

def dates? (row : Row) : Option Dates := do
  let time := Cell.unsigned? Width.bound64
  let createdAt ← time row.createdAt
  let attestationFetchedAt ← row.attestationFetchedAt.optional? time
  let settlementSubmittedAt ← row.settlementSubmittedAt.optional? time
  let completedAt ← row.completedAt.optional? time
  let lastActivityAt ← time row.lastActivityAt
  return { createdAt, attestationFetchedAt, settlementSubmittedAt, completedAt, lastActivityAt }

def status? (row : Row) : Option Status :=
  row.status.text?.bind Status.ofText?

def record? (row : Row) : Option Redemption := do
  let id ← row.id.text?
  let chain ← row.chainName.text?
  let event ← row.event?
  let payload ← row.attestationPayload.optional? Cell.blob?
  let attestation ← row.attestationState.text?.bind AttestationState.ofText?
  let settlement ← row.settlementTxHash.optional? Cell.text?
  let status ← row.status?
  let error ← row.error.optional? Cell.text?
  let retryCount ← row.retryCount.unsigned? Width.bound32
  let leaseExpiresAt ← row.leaseExpiresAt.optional? (Cell.unsigned? Width.bound64)
  let version ← row.version.unsigned? Width.bound64
  let dates ← row.dates?
  let logs ← row.logs?
  return {
    id, chain, event, payload, attestation, settlement, status, error, retryCount,
    leaseExpiresAt, version, dates, logs }

end Row

end RedemptionRelay
