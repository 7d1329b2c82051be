import RedemptionRelay.Rehearsal

/-! # The service running

The service loop in a rehearsed world: it ticks at once and then after each
pause, until it finds that it has been stopped. Errands are done while calls
and pauses take time.
-/

namespace RedemptionRelay.Rehearsal

variable {σ : Type} [Store σ]

def stepLoop (world : Rehearsal σ) : Rehearsal σ :=
  let world :=
    match world.loop.position with
    | .idle =>
        { world with intakeOpen := !world.intakeTaken, intakeTaken := true }
    | .ticking => world.tick.2
    | .sleeping => world.elapse world.settings.pollMilliseconds
    | .draining => { world.takeWaiting with intakeOpen := false }
    | _ => world
  { world with loop := world.loop.step }

def runLoop (world : Rehearsal σ) : Nat → Rehearsal σ
  | 0 => world
  | steps + 1 =>
      if world.loop.position = .ended then world else world.stepLoop.runLoop steps

def schedule (start : Nat) : List (Nat × Errand) → List (Nat × Errand)
  | [] => []
  | (offset, errand) :: later =>
      let moment := start + offset
      (moment, errand) ::
        (schedule start later).map fun (other, errand) => (max moment other, errand)

structure RunReport where
  sent : List Bool
  ranMilliseconds : Nat
  runningAtStop : Bool
  runningAfter : Bool
deriving DecidableEq, Repr

/-- Runs the service, with events sent after the given times and a stop. -/
def runService (world : Rehearsal σ) (events : List (Nat × RawEvent)) (stopAfter : Nat) :
    RunReport × Rehearsal σ :=
  let start := world.clock
  let errands := events.map (fun (offset, event) => (offset, Errand.send event))
  let errands := schedule start (errands ++ [(stopAfter, .stop)])
  let lastMoment := (errands.map (·.1)).foldl max start
  let pauses := (lastMoment - start) / max world.settings.pollMilliseconds 1 + 2
  let world := { world with errands := errands, loop := {}, sent := [] }
  let world := world.runLoop (3 * pauses + 8)
  ({ sent := world.sent.reverse
     ranMilliseconds := world.clock - start
     runningAtStop := world.runningAtStop
     runningAfter := world.loop.isRunning },
    { world with errands := [] })

end RedemptionRelay.Rehearsal
