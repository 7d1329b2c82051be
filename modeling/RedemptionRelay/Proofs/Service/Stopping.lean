import Mathlib.Logic.Function.Iterate
import RedemptionRelay.Proofs.Service
import RedemptionRelay.Rehearsal.Running

/-! # Stopping the service

The loop sets its flag with its first step and looks at it once per round. A
stop that comes after that step holds: of the ticks, at most the one under way
is run, and then the loop is left. A stop that comes before it is undone by it,
and the loop goes round as if nobody had asked. How long a tick or a pause
lasts, and what happens meanwhile, makes no difference.
-/

namespace RedemptionRelay

namespace ServiceLoop

def hasLeft (loop : ServiceLoop) : Bool :=
  loop.position == .draining || loop.position == .ended

def ticksIn (loop : ServiceLoop) : Nat → Nat
  | 0 => 0
  | steps + 1 => (if loop.position = .ticking then 1 else 0) + loop.step.ticksIn steps

/-! ## A flag that is cleared -/

/-- The loop has made its first step and its flag has been cleared since. -/
structure IsStopped (loop : ServiceLoop) : Prop where
  begun : loop.position ≠ .idle
  cleared : loop.isRunning = false

/-- The steps to the end of the last round, once the flag is cleared. -/
def stepsLeft (loop : ServiceLoop) : Nat :=
  match loop.position with
  | .ticking => 3
  | .sleeping => 2
  | .checking => 1
  | _ => 0

theorem position_step_ne_idle (loop : ServiceLoop) : loop.step.position ≠ .idle := by
  rcases loop with ⟨position, isRunning⟩
  cases position <;> cases isRunning <;> decide

section

variable {loop : ServiceLoop}

theorem IsStopped.stop_eq (stopped : loop.IsStopped) : loop.stop = loop := by
  rcases loop with ⟨position, isRunning⟩
  cases stopped.cleared
  rfl

theorem IsStopped.step (stopped : loop.IsStopped) :
    loop.step.IsStopped ∧ loop.step.stepsLeft = loop.stepsLeft - 1 ∧
      loop.step.position ≠ .ticking := by
  rcases loop with ⟨position, isRunning⟩
  cases stopped.cleared
  cases position with
  | idle => exact absurd rfl stopped.begun
  | checking | ticking | sleeping | draining | ended =>
      exact ⟨⟨by decide, rfl⟩, rfl, by decide⟩

theorem IsStopped.iterate (stopped : loop.IsStopped) (steps : Nat) :
    (ServiceLoop.step^[steps] loop).IsStopped ∧
      (ServiceLoop.step^[steps] loop).stepsLeft = loop.stepsLeft - steps := by
  induction steps generalizing loop with
  | zero => exact ⟨stopped, rfl⟩
  | succ steps induction =>
      rcases stopped.step with ⟨still, fewer, -⟩
      rw [Function.iterate_succ_apply]
      rcases induction still with ⟨after, left⟩
      exact ⟨after, by omega⟩

theorem IsStopped.ticksIn_eq_zero (stopped : loop.IsStopped) (between : loop.position ≠ .ticking)
    (steps : Nat) : loop.ticksIn steps = 0 := by
  induction steps generalizing loop with
  | zero => rfl
  | succ steps induction =>
      rcases stopped.step with ⟨still, -, notTicking⟩
      rw [ticksIn, if_neg between, induction still notTicking]

theorem IsStopped.ticksIn_le_one (stopped : loop.IsStopped) (steps : Nat) :
    loop.ticksIn steps ≤ 1 := by
  cases steps with
  | zero => exact Nat.zero_le 1
  | succ steps =>
      rcases stopped.step with ⟨still, -, notTicking⟩
      rw [ticksIn, still.ticksIn_eq_zero notTicking]
      split <;> decide

theorem IsStopped.hasLeft_iff (stopped : loop.IsStopped) :
    loop.hasLeft = true ↔ loop.stepsLeft = 0 := by
  rcases loop with ⟨position, isRunning⟩
  cases position with
  | idle => exact absurd rfl stopped.begun
  | checking | ticking | sleeping | draining | ended =>
      cases isRunning <;> decide

theorem stepsLeft_le_three (loop : ServiceLoop) : loop.stepsLeft ≤ 3 := by
  rcases loop with ⟨position, isRunning⟩
  cases position <;> cases isRunning <;> decide

theorem IsStopped.hasLeft_iterate (stopped : loop.IsStopped) (steps : Nat) :
    (ServiceLoop.step^[steps + 3] loop).hasLeft = true := by
  rcases stopped.iterate (steps + 3) with ⟨after, left⟩
  have atMost := loop.stepsLeft_le_three
  exact after.hasLeft_iff.mpr (by omega)

end

/-! ## A flag that stays set -/

/-- The loop goes its rounds and has not been stopped. -/
structure GoesRound (loop : ServiceLoop) : Prop where
  begun : loop.position ≠ .idle
  inside : loop.hasLeft = false
  set : loop.isRunning = true

/-- The steps since the last round began, or since the flag was set. -/
def stepsDone (loop : ServiceLoop) : Nat :=
  match loop.position with
  | .checking => 1
  | .ticking => 2
  | _ => 0

theorem stepsDone_le_two (loop : ServiceLoop) : loop.stepsDone ≤ 2 := by
  rcases loop with ⟨position, isRunning⟩
  cases position <;> cases isRunning <;> decide

section

variable {loop : ServiceLoop}

theorem GoesRound.step (going : loop.GoesRound) :
    loop.step.GoesRound ∧
      loop.stepsDone + 1 = loop.step.stepsDone + if loop.position = .ticking then 3 else 0 := by
  rcases loop with ⟨position, isRunning⟩
  cases going.set
  cases position with
  | idle => exact absurd rfl going.begun
  | draining | ended => exact nomatch going.inside
  | checking | ticking | sleeping => exact ⟨⟨by decide, rfl, rfl⟩, rfl⟩

theorem GoesRound.iterate (going : loop.GoesRound) (steps : Nat) :
    (ServiceLoop.step^[steps] loop).GoesRound := by
  induction steps generalizing loop with
  | zero => exact going
  | succ steps induction =>
      rw [Function.iterate_succ_apply]
      exact induction going.step.1

theorem GoesRound.ticksIn_eq (going : loop.GoesRound) (steps : Nat) :
    loop.ticksIn steps = (loop.stepsDone + steps) / 3 := by
  induction steps generalizing loop with
  | zero =>
      have atMost := loop.stepsDone_le_two
      rw [ticksIn]
      omega
  | succ steps induction =>
      rcases going.step with ⟨after, counted⟩
      rw [ticksIn, induction after]
      split at counted
      · next ticking => rw [if_pos ticking]; omega
      · next between => rw [if_neg between]; omega

end

theorem goesRound_step_idle (isRunning : Bool) :
    (ServiceLoop.step ⟨.idle, isRunning⟩).GoesRound :=
  ⟨position_step_ne_idle _, rfl, rfl⟩

/-! ## Meanwhile

What a tick or a pause does to the world leaves the loop alone, unless a stop is
among the errands that fall due. -/

/-- The loop is as it was, or it has been stopped and nothing else. -/
def IsSpared (before after : ServiceLoop) : Prop :=
  after = before ∨ after = before.stop

section

variable {loop between later : ServiceLoop}

theorem IsSpared.trans (first : IsSpared loop between) (second : IsSpared between later) :
    IsSpared loop later := by
  rcases first with rfl | rfl
  · exact second
  · rcases second with rfl | rfl <;> exact .inr rfl

end

end ServiceLoop

namespace Rehearsal

open ServiceLoop (IsSpared)

variable {σ : Type} [Store σ] {world : Rehearsal σ}

section Requests

theorem loop_strike (call : StoreCall) (id : String) :
    (world.strike call id).2.loop = world.loop := by
  unfold strike
  split <;> rfl

theorem loop_reading {α : Type} (call : StoreCall) (id : String)
    (read : σ → Except StoreError α) : (world.reading call id read).2.loop = world.loop := by
  have struck := world.loop_strike call id
  unfold reading
  split <;> simp_all

theorem loop_writing {α : Type} (call : StoreCall) (id : String)
    (write : σ → Except StoreError (α × σ)) :
    (world.writing call id write).2.loop = world.loop := by
  have struck := world.loop_strike call id
  unfold writing
  split
  · simp_all
  · split <;> simp_all

omit [Store σ] in
theorem loop_place (limit : Duration) (call : Call) :
    (world.place limit call).2.loop = world.loop := by
  cases call <;> rfl

theorem loop_answerAtOnce (request : Request) :
    (answerAtOnce world request).2.loop = world.loop := by
  cases request with
  | listRecords status chain => exact loop_reading ..
  | readClock => rfl
  | create record => exact loop_writing ..
  | update record expected => exact loop_writing ..
  | perform call limit => exact loop_place ..
  | announce milestone => rfl

end Requests

theorem loop_intake (events : List RawEvent) : (world.intake events).2.loop = world.loop := by
  unfold intake
  generalize ({} : IntakeStatistics) = statistics
  induction events generalizing world statistics with
  | nil => rfl
  | cons event later induction =>
      have kept : (world.observe event).2.loop = world.loop :=
        Activity.holds_run (fun other : Rehearsal σ => other.loop = world.loop)
          (fun other request same => (loop_answerAtOnce request).trans same) rfl
      exact (induction _).trans kept

theorem loop_takeWaiting : world.takeWaiting.loop = world.loop :=
  loop_intake _

/-! ### Errands -/

omit [Store σ] in
theorem isSpared_perform (world : Rehearsal σ) (errand : Errand) :
    IsSpared world.loop (world.perform errand).loop := by
  cases errand with
  | stop => exact .inr rfl
  | send event =>
      unfold perform
      dsimp only
      split <;> exact .inl rfl

theorem isSpared_performUntil (world : Rehearsal σ) (time : Nat) (errands : List (Nat × Errand)) :
    IsSpared world.loop (performUntil time world errands).loop := by
  induction errands generalizing world with
  | nil => exact .inl rfl
  | cons next later induction =>
      unfold performUntil
      dsimp only
      split
      · refine IsSpared.trans ?_ (induction _)
        have performed :=
          isSpared_perform { world with clock := max world.clock next.1 } next.2
        split
        · rw [loop_takeWaiting]
          exact performed
        · exact performed
      · exact .inl rfl

theorem isSpared_elapse (world : Rehearsal σ) (milliseconds : Nat) :
    IsSpared world.loop (world.elapse milliseconds).loop := by
  unfold elapse
  split
  · exact .inl rfl
  · have performed := world.takeWaiting.isSpared_performUntil (world.clock + milliseconds)
      world.errands
    rw [loop_takeWaiting] at performed
    exact performed

theorem isSpared_answer (request : Request) :
    IsSpared world.loop (answer world request).2.loop := by
  cases request with
  | perform call limit =>
      have placed := world.loop_place limit call
      exact placed ▸ (world.place limit call).2.isSpared_elapse _
  | listRecords | readClock | create | update | announce => exact .inl (loop_answerAtOnce _)

theorem isSpared_tick : IsSpared world.loop world.tick.2.loop :=
  ServiceSettings.holds_tick (fun other : Rehearsal σ => IsSpared world.loop other.loop)
    (fun _ request before => before.trans (isSpared_answer request)) (.inl rfl) world.settings

/-! ### Steps of the loop -/

theorem loop_stepLoop :
    ∃ spared, IsSpared world.loop spared ∧ world.stepLoop.loop = spared.step := by
  unfold stepLoop
  cases position : world.loop.position with
  | idle | checking | ended => exact ⟨_, .inl rfl, rfl⟩
  | ticking => exact ⟨_, isSpared_tick, rfl⟩
  | sleeping => exact ⟨_, world.isSpared_elapse _, rfl⟩
  | draining => exact ⟨_, .inl loop_takeWaiting, rfl⟩

/-- A stopped service goes its last steps however long its ticks and pauses are,
whatever they do, and whatever else is asked of it. -/
theorem loop_iterate_of_stopped (world : Rehearsal σ) (stopped : world.loop.IsStopped)
    (steps : Nat) :
    (stepLoop^[steps] world).loop = ServiceLoop.step^[steps] world.loop := by
  induction steps generalizing world with
  | zero => rfl
  | succ steps induction =>
      rw [Function.iterate_succ_apply, Function.iterate_succ_apply]
      have stepped : world.stepLoop.loop = world.loop.step := by
        rcases world.loop_stepLoop with ⟨spared, same | same, stepped⟩
        · rw [stepped, same]
        · rw [stepped, same, stopped.stop_eq]
      rw [induction _ (stepped ▸ stopped.step.1), stepped]

end Rehearsal

/-! ## When a stop is kept -/

namespace ServiceLoop

/-- A stop holds if the loop has made its first step, however many more it has
made, and in any world that the service works in; before that step it is lost,
and the rounds go on for ever. -/
theorem stop_kept_once_begun (wasRunning : Bool) (earlier later : Nat) :
    let start : ServiceLoop := ⟨.idle, wasRunning⟩
    let stopped := (ServiceLoop.step^[earlier + 1] start).stop
    (stopped.ticksIn later ≤ 1 ∧ (ServiceLoop.step^[later + 3] stopped).hasLeft = true ∧
        ∀ (σ : Type) [Store σ] (world : Rehearsal σ),
          (Rehearsal.stepLoop^[later] { world with loop := stopped }).loop =
            ServiceLoop.step^[later] stopped) ∧
      start.stop.ticksIn later = later / 3 ∧
        (ServiceLoop.step^[later] start.stop).hasLeft = false := by
  intro start stopped
  have begun : (ServiceLoop.step^[earlier + 1] start).position ≠ .idle := by
    rw [Function.iterate_succ_apply']
    exact position_step_ne_idle _
  have isStopped : stopped.IsStopped := ⟨begun, rfl⟩
  refine ⟨⟨isStopped.ticksIn_le_one later, isStopped.hasLeft_iterate later, ?_⟩, ?_⟩
  · intro σ _ world
    exact Rehearsal.loop_iterate_of_stopped { world with loop := stopped } isStopped later
  cases later with
  | zero => exact ⟨rfl, rfl⟩
  | succ later =>
      have going : start.stop.step.GoesRound := goesRound_step_idle false
      constructor
      · rw [ticksIn, if_neg (nofun : start.stop.position ≠ .ticking), going.ticksIn_eq,
          show start.stop.step.stepsDone = 1 from rfl]
        omega
      · rw [Function.iterate_succ_apply]
        exact (going.iterate later).inside

/-- The flag is cleared before the first step sets it; two ticks follow, and the
loop is on its way to the third. -/
theorem early_stop_lost :
    ¬ ∀ earlier : Nat, let stopped := (ServiceLoop.step^[earlier] {}).stop
      (∀ later, stopped.ticksIn later ≤ 1) ∧
        ∃ later, (ServiceLoop.step^[later] stopped).hasLeft = true := by
  intro kept
  have twice : (ServiceLoop.stop {}).ticksIn 6 = 2 := by decide
  have atMostOne := (kept 0).1 6
  rw [Function.iterate_zero_apply, twice] at atMostOne
  exact absurd atMostOne (by decide)

end ServiceLoop

end RedemptionRelay
