import RedemptionRelay.LogLine
import RedemptionRelay.Redemption

/-! # Milestones

The steps of a redemption that operators follow: observed, attestation fetched,
completed, failed. Each is one log line that carries the redemption's identifier
as its correlation.
-/

namespace RedemptionRelay

open Json (Value)

structure Milestone where
  category : EventCategory
  name : String
  redemptionId : String
  chain : String
  status : Status
  settlement : Option String
  error : Option String
deriving DecidableEq, Repr

namespace Milestone

def observed (record : Redemption) : Milestone :=
  { category := .intake
    name := "redemption_observed"
    redemptionId := record.id
    chain := record.chain
    status := record.status
    settlement := none
    error := none }

/-- What the journal says of a record that has just been stored after an attempt. -/
def reached? (record : Redemption) : Option Milestone :=
  match record.status with
  | .fetched =>
      some {
        category := .attestation
        name := "attestation_fetched"
        redemptionId := record.id
        chain := record.chain
        status := record.status
        settlement := none
        error := none }
  | .completed =>
      some {
        category := .settlement
        name := "redemption_completed"
        redemptionId := record.id
        chain := record.chain
        status := record.status
        settlement := record.settlement
        error := none }
  | .failed =>
      some {
        category := .error
        name := "redemption_failed"
        redemptionId := record.id
        chain := record.chain
        status := record.status
        settlement := none
        error := record.error }
  | _ => none

def level (milestone : Milestone) : LogLevel :=
  if milestone.error.isNone then .info else .error

def data (milestone : Milestone) : Value :=
  .object [
    ("chain", .text milestone.chain),
    ("redemption_id", .text milestone.redemptionId),
    ("settlement_tx_hash", .ofText? milestone.settlement),
    ("status", .text milestone.status.text),
    ("success", .bool milestone.error.isNone)]

def line (milestone : Milestone) (moment : Nat) : LogLine :=
  { LogLine.begun moment milestone.level milestone.category milestone.name with
    correlationId := some milestone.redemptionId
    data := some milestone.data
    error := milestone.error.map (⟨"REDEMPTION_FAILED", ·⟩) }

end Milestone

end RedemptionRelay
