/-! # Lifecycle phases

A redemption waits for its attestation, then for its settlement:

    pending → fetched → completed
       ↓         ↓
  fetchFailed submitFailed      may be attempted again
       ↓         ↓
     failed    failed           for good

The attestation state is kept beside the phase, because a failed redemption
may or may not have had its attestation.
-/

namespace RedemptionRelay

inductive Status where
  | pending
  | fetchFailed
  | fetched
  | submitFailed
  | completed
  | failed
deriving DecidableEq, Repr, Inhabited

namespace Status

def all : List Status :=
  [.pending, .fetchFailed, .fetched, .submitFailed, .completed, .failed]

def text : Status → String
  | .pending => "pending"
  | .fetchFailed => "fetch_failed"
  | .fetched => "fetched"
  | .submitFailed => "submit_failed"
  | .completed => "completed"
  | .failed => "failed"

def ofText? (text : String) : Option Status :=
  all.find? (·.text == text)

def unknownMessage (text : String) : String :=
  s!"unknown status: {text}"

def isTerminal : Status → Bool
  | .completed | .failed => true
  | _ => false

def isRetryable : Status → Bool
  | .fetchFailed | .submitFailed => true
  | _ => false

def rank : Status → Nat
  | .pending | .fetchFailed => 0
  | .fetched | .submitFailed => 1
  | .completed | .failed => 2

/-- The edges of the lifecycle. -/
def canBecome : Status → Status → Bool
  | .completed, _ | .failed, _ => false
  | _, .failed => true
  | .pending, .fetched | .pending, .fetchFailed => true
  | .fetchFailed, .fetched | .fetchFailed, .fetchFailed => true
  | .fetched, .completed | .fetched, .submitFailed => true
  | .submitFailed, .completed | .submitFailed, .submitFailed => true
  | _, _ => false

end Status

inductive AttestationState where
  | pending
  | fetched
  | fetchFailed
deriving DecidableEq, Repr, Inhabited

namespace AttestationState

def all : List AttestationState :=
  [.pending, .fetched, .fetchFailed]

def text : AttestationState → String
  | .pending => "pending"
  | .fetched => "fetched"
  | .fetchFailed => "fetch_failed"

def ofText? (text : String) : Option AttestationState :=
  all.find? (·.text == text)

def unknownMessage (text : String) : String :=
  s!"unknown attestation state: {text}"

end AttestationState

end RedemptionRelay
