import RedemptionRelay.Redemption
import RedemptionRelay.Statistics

/-! # Stores

A store keeps one record per identifier. Writing is a compare-and-swap on the
version: an update lands only if the stored version is the one that was read,
and then the stored version is one higher. An operation that fails leaves the
store as it was, which is why only success comes with a store.
-/

namespace RedemptionRelay

inductive StoreError where
  | notFound (id : String)
  | versionConflict (id : String) (expected : Nat)
  | database (reason : String)
  | invalidData (reason : String)
  | connection (reason : String)
deriving DecidableEq, Repr

namespace StoreError

def message : StoreError → String
  | .notFound id => s!"Record not found: {id}"
  | .versionConflict id expected => s!"Version conflict on {id}: expected version {expected}"
  | .database reason => s!"Database error: {reason}"
  | .invalidData reason => s!"Invalid data: {reason}"
  | .connection reason => s!"Connection error: {reason}"

/-- Whether the store itself is out of order, rather than one record. -/
def isUnavailable : StoreError → Bool
  | .connection _ | .database _ => true
  | _ => false

end StoreError

inductive Creation where
  | created
  | alreadyExists
deriving DecidableEq, Repr

class Store (σ : Type) where
  /-- An existing record is left untouched. -/
  create : σ → Redemption → Except StoreError (Creation × σ)
  /-- Answers the new version. -/
  update : σ → Redemption → Nat → Except StoreError (Nat × σ)
  get? : σ → String → Except StoreError (Option Redemption)
  /-- Records in a phase, oldest first, of one chain or of all. -/
  withStatus : σ → Status → Option String → Except StoreError (List Redemption)
  /-- Whether there was a record to remove. -/
  delete : σ → String → Except StoreError (Bool × σ)
  countByStatus : σ → Option String → Except StoreError StatusCounts

/-- No chain asked for means any chain. -/
def matchesChain (wanted : Option String) (chain : String) : Bool :=
  match wanted with
  | some name => chain == name
  | none => true

def tally (statuses : List Status) : StatusCounts :=
  (Status.all.map fun status => (status, statuses.count status)).filter (·.2 ≠ 0)

end RedemptionRelay
