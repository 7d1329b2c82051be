import RedemptionRelay.Rehearsal

/-! # Two batches at once

Two workers share the world. A worker goes on until a call makes it wait; then
the other one goes on, and after that whichever wait ends first.
-/

namespace RedemptionRelay

/-- A batch, and the moment at which it can go on if it is waiting. -/
structure Worker where
  batch : Batch
  wakesAt : Option Nat := none

namespace Rehearsal

variable {σ : Type} [Store σ]

def isImmediate (world : Rehearsal σ) : Request → Bool
  | .perform call limit => (world.place limit call).1.1 == 0
  | _ => true

def goOn (world : Rehearsal σ) (batch : Batch) : Worker × Rehearsal σ :=
  let (batch, world) := Activity.runWhile answerAtOnce isImmediate world batch
  match batch.next with
  | .ask (.perform call limit) resume =>
      let ((wait, reply), world) := world.place limit call
      ({ batch := resume reply, wakesAt := some (world.clock + wait) }, world)
  | _ => ({ batch := batch }, world)

def wake (world : Rehearsal σ) (worker : Worker) (moment : Nat) : Worker × Rehearsal σ :=
  { world with clock := max world.clock moment }.goOn worker.batch

/-- Wakes the workers in turn; every waking uses up a call of one batch. -/
def alternate (world : Rehearsal σ) (first second : Worker) :
    Nat → (Worker × Worker) × Rehearsal σ
  | 0 => ((first, second), world)
  | turns + 1 =>
      match first.wakesAt, second.wakesAt with
      | none, none => ((first, second), world)
      | some moment, none =>
          let (first, world) := world.wake first moment
          alternate world first second turns
      | none, some moment =>
          let (second, world) := world.wake second moment
          alternate world first second turns
      | some moment, some other =>
          if moment ≤ other then
            let (first, world) := world.wake first moment
            alternate world first second turns
          else
            let (second, world) := world.wake second other
            alternate world first second turns

def resultOf (worker : Worker) : Option BatchResult :=
  match worker.batch.next with
  | .done result => some result
  | .ask _ _ => none

def pair (world : Rehearsal σ) (first second : Phase) (chain : Option String) :
    (Option BatchResult × Option BatchResult) × Rehearsal σ :=
  let (first, world) := world.goOn (Batch.start first world.settings.policy chain)
  let (second, world) := world.goOn (Batch.start second world.settings.policy chain)
  let turns := first.batch.rank.2 + second.batch.rank.2 + 2
  let ((first, second), world) := world.alternate first second turns
  ((resultOf first, resultOf second), world)

end Rehearsal

end RedemptionRelay
