import RedemptionRelay.Store

/-! # Planned faults

A rehearsed store fails as planned. A fault strikes before the n-th call of its
kind: another worker moves the record on, the record disappears, or the call is
answered with an error.
-/

namespace RedemptionRelay

inductive StoreCall where
  | create
  | update
  | getById
  | getByStatus
  | delete
  | countByStatus
deriving DecidableEq, Repr

inductive FaultEffect where
  | race
  | remove
  | fail (error : StoreError)
deriving DecidableEq, Repr

structure Fault where
  call : StoreCall
  /-- How many calls of this kind come before the one that is struck. -/
  index : Nat
  effect : FaultEffect
deriving DecidableEq, Repr

structure FaultPlan where
  faults : List Fault := []
  /-- The calls made so far, latest first. -/
  made : List StoreCall := []
  /-- Every call fails in this way. -/
  failing : Option StoreError := none
deriving DecidableEq, Repr

namespace FaultPlan

def effects (plan : FaultPlan) (call : StoreCall) : List FaultEffect :=
  let index := plan.made.count call
  (plan.faults.filter fun fault => fault.call = call && fault.index = index).map (·.effect)

def note (plan : FaultPlan) (call : StoreCall) : FaultPlan :=
  { plan with made := call :: plan.made }

end FaultPlan

/-- Another worker stores the record as it is, only touched. -/
def raceUpdate {σ : Type} [Store σ] (store : σ) (id : String) (now : Nat) :
    Except StoreError σ := do
  match ← Store.get? store id with
  | some record => return (← Store.update store (record.touch now) record.version).2
  | none => return store

def FaultEffect.strike {σ : Type} [Store σ] (store : σ) (id : String) (now : Nat) :
    FaultEffect → Except StoreError σ
  | .race => raceUpdate store id now
  | .remove => (Store.delete store id).map (·.2)
  | .fail error => .error error

/-- Lets effects strike one after the other, up to the first that fails; the
call then fails with that error. -/
def strikeAll {σ : Type} [Store σ] (store : σ) (id : String) (now : Nat) :
    List FaultEffect → Option StoreError × σ
  | [] => (none, store)
  | effect :: later =>
      match effect.strike store id now with
      | .ok store => strikeAll store id now later
      | .error error => (some error, store)

end RedemptionRelay
