import RedemptionRelay.Status
import RedemptionRelay.Text.Bytes
import RedemptionRelay.Width

/-! # The redemption record

A record is made from an observed request and afterwards changes only by a
`Mark`. Numbers are unbounded here; the widths in which they are kept are
stated by `Redemption.InRange`.
-/

namespace RedemptionRelay

/-- The unspent output of the wallet that will pay. -/
structure MainUtxo where
  txHash : String
  outputIndex : Nat
  outputValue : Nat
deriving DecidableEq, Repr, Inhabited

/-- The request as it was observed; hexadecimal texts carry the `0x` mark. -/
structure Event where
  walletPubKeyHash : String
  mainUtxo : MainUtxo
  redeemerOutputScript : String
  amount : Nat
  sourceTxHash : String
deriving DecidableEq, Repr, Inhabited

structure Dates where
  createdAt : Nat
  attestationFetchedAt : Option Nat := none
  settlementSubmittedAt : Option Nat := none
  completedAt : Option Nat := none
  lastActivityAt : Nat
deriving DecidableEq, Repr, Inhabited

structure LogEntry where
  time : Nat
  message : String
deriving DecidableEq, Repr, Inhabited

structure Redemption where
  id : String
  chain : String
  event : Event
  payload : Option Bytes
  attestation : AttestationState
  settlement : Option String
  status : Status
  error : Option String
  /-- Failed attempts in the current phase. -/
  retryCount : Nat
  /-- Set while a worker holds the record for an external call. -/
  leaseExpiresAt : Option Nat
  version : Nat
  dates : Dates
  logs : List LogEntry
deriving DecidableEq, Repr, Inhabited

def logCapacity : Nat := 50

structure TransitionError where
  source : Status
  target : Status
deriving DecidableEq, Repr

def TransitionError.message (error : TransitionError) : String :=
  s!"invalid transition {error.source.text} -> {error.target.text}"

/-! The ways in which a record changes. -/

inductive Mark where
  | claim (leaseUntil : Nat)
  | release
  | fetched (payload : Bytes)
  | fetchFailed (error : String)
  | completed (settlement : String)
  | submitFailed (error : String)
  | failed (error : String)
deriving DecidableEq, Repr

namespace Redemption

/-- The newest entries survive when the trail is full. -/
def log (record : Redemption) (now : Nat) (message : String) : Redemption :=
  let logs := record.logs ++ [⟨now, message⟩]
  { record with logs := logs.drop (logs.length - logCapacity) }

/-! Where a change adds to the trail, the clock is read once for the change and
once more, at `logged`, for the entry. -/

def observed (chain : String) (event : Event) (now logged : Nat) : Redemption :=
  let record : Redemption :=
    { id := event.sourceTxHash
      chain := chain
      event := event
      payload := none
      attestation := .pending
      settlement := none
      status := .pending
      error := none
      retryCount := 0
      leaseExpiresAt := none
      version := 0
      dates := { createdAt := now, lastActivityAt := now }
      logs := [] }
  record.log logged "redemption request observed"

def touch (record : Redemption) (now : Nat) : Redemption :=
  { record with dates := { record.dates with lastActivityAt := now } }

def claim (record : Redemption) (leaseUntil now : Nat) : Redemption :=
  { record with leaseExpiresAt := some leaseUntil }.touch now

def release (record : Redemption) (now : Nat) : Redemption :=
  { record with leaseExpiresAt := none }.touch now

/-- Moves along an edge of the lifecycle and gives the lease back. -/
def become (record : Redemption) (next : Status) (now : Nat) : Except TransitionError Redemption :=
  if record.status.canBecome next then
    .ok ({ record with status := next, leaseExpiresAt := none }.touch now)
  else
    .error ⟨record.status, next⟩

def markFetched (record : Redemption) (payload : Bytes) (now logged : Nat) :
    Except TransitionError Redemption := do
  let moved ← record.become .fetched now
  let stored :=
    { moved with
      payload := some payload
      attestation := .fetched
      dates := { moved.dates with attestationFetchedAt := some now }
      error := none
      retryCount := 0 }
  return stored.log logged "attestation fetched"

def markFetchFailed (record : Redemption) (error : String) (now logged : Nat) :
    Except TransitionError Redemption := do
  let moved ← record.become .fetchFailed now
  let attempt := moved.retryCount + 1
  let stored :=
    { moved with attestation := .fetchFailed, retryCount := attempt, error := some error }
  return stored.log logged s!"attestation fetch failed (attempt {attempt}): {error}"

def markCompleted (record : Redemption) (settlement : String) (now logged : Nat) :
    Except TransitionError Redemption := do
  let moved ← record.become .completed now
  let stored :=
    { moved with
      settlement := some settlement
      dates :=
        { moved.dates with settlementSubmittedAt := some now, completedAt := some now }
      error := none
      retryCount := 0 }
  return stored.log logged s!"settlement submitted: {settlement}"

def markSubmitFailed (record : Redemption) (error : String) (now logged : Nat) :
    Except TransitionError Redemption := do
  let moved ← record.become .submitFailed now
  let attempt := moved.retryCount + 1
  let stored := { moved with retryCount := attempt, error := some error }
  return stored.log logged s!"settlement failed (attempt {attempt}): {error}"

def markFailed (record : Redemption) (error : String) (now logged : Nat) :
    Except TransitionError Redemption := do
  let moved ← record.become .failed now
  let stored :=
    { moved with
      attestation :=
        if moved.attestation = AttestationState.fetched then .fetched else .fetchFailed
      error := some error }
  return stored.log logged s!"failed: {error}"

def apply (record : Redemption) (mark : Mark) (now logged : Nat) :
    Except TransitionError Redemption :=
  match mark with
  | .claim leaseUntil => .ok (record.claim leaseUntil now)
  | .release => .ok (record.release now)
  | .fetched payload => record.markFetched payload now logged
  | .fetchFailed error => record.markFetchFailed error now logged
  | .completed settlement => record.markCompleted settlement now logged
  | .submitFailed error => record.markSubmitFailed error now logged
  | .failed error => record.markFailed error now logged

/-! ## Questions -/

def attestationComplete (record : Redemption) : Bool :=
  record.attestation = AttestationState.fetched

def isLeased (record : Redemption) (now : Nat) : Bool :=
  match record.leaseExpiresAt with
  | some expiry => now < expiry
  | none => false

/-- The last time, where a sum of times stops growing. -/
def maxTime : Nat := Width.max64

/-- Only a retryable failure has to wait before the next attempt. -/
def backoffElapsed (record : Redemption) (backoff now : Nat) : Bool :=
  !record.status.isRetryable || min (record.dates.lastActivityAt + backoff) maxTime ≤ now

end Redemption

/-! ## Widths -/

def MainUtxo.InRange (utxo : MainUtxo) : Prop :=
  utxo.outputIndex < Width.bound32 ∧ utxo.outputValue < Width.bound64

def Event.InRange (event : Event) : Prop :=
  event.mainUtxo.InRange ∧ event.amount < Width.bound128

def Dates.InRange (dates : Dates) : Prop :=
  dates.createdAt < Width.bound64 ∧
  (∀ time ∈ dates.attestationFetchedAt, time < Width.bound64) ∧
  (∀ time ∈ dates.settlementSubmittedAt, time < Width.bound64) ∧
  (∀ time ∈ dates.completedAt, time < Width.bound64) ∧
  dates.lastActivityAt < Width.bound64

def Redemption.InRange (record : Redemption) : Prop :=
  record.event.InRange ∧
  record.retryCount < Width.bound32 ∧
  (∀ expiry ∈ record.leaseExpiresAt, expiry < Width.bound64) ∧
  record.version < Width.bound64 ∧
  record.dates.InRange ∧
  (∀ entry ∈ record.logs, entry.time < Width.bound64)

instance (utxo : MainUtxo) : Decidable utxo.InRange :=
  inferInstanceAs (Decidable (_ ∧ _))

instance (event : Event) : Decidable event.InRange :=
  inferInstanceAs (Decidable (_ ∧ _))

instance (dates : Dates) : Decidable dates.InRange :=
  inferInstanceAs (Decidable (_ ∧ _))

instance (record : Redemption) : Decidable record.InRange :=
  inferInstanceAs (Decidable (_ ∧ _))

end RedemptionRelay
