import RedemptionRelay.Intake.Channel
import RedemptionRelay.Rehearsal.Fault
import RedemptionRelay.Rehearsal.Script
import RedemptionRelay.Service

/-! # Rehearsals

A rehearsal is a world in which the relay's activities can be carried out and
watched: a store with planned faults, external services that follow scripts,
and a clock that moves only when something takes time. Errands wait for their
moment: an event is sent to the running service, or the service is stopped.
-/

namespace RedemptionRelay

inductive Errand where
  | send (event : RawEvent)
  | stop

structure Rehearsal (σ : Type) where
  settings : ServiceSettings
  store : σ
  plan : FaultPlan := {}
  /-- Milliseconds since the start of 1970. -/
  clock : Nat
  fetches : Scripts AttestationResult
  submissions : Scripts SettlementResult
  /-- Calls made, latest first. -/
  calls : List Call := []
  /-- Journal lines of milestones, latest first. -/
  journal : List LogLine := []
  loop : ServiceLoop := {}
  /-- The service's channel takes events. -/
  intakeOpen : Bool := false
  /-- The service's channel has been handed to a run. -/
  intakeTaken : Bool := false
  errands : List (Nat × Errand) := []
  /-- Events sent that the service's intake has yet to take. -/
  waiting : List RawEvent := []
  /-- Whether each event could be sent, latest first. -/
  sent : List Bool := []
  /-- Whether the service was running when it was stopped. -/
  runningAtStop : Bool := false

namespace Rehearsal

variable {σ : Type} [Store σ]

def now (world : Rehearsal σ) : Nat :=
  world.clock / 1000

/-! ## The store -/

def strike (world : Rehearsal σ) (call : StoreCall) (id : String) :
    Option StoreError × Rehearsal σ :=
  match world.plan.failing with
  | some error => (some error, world)
  | none =>
      let (failure, store) := strikeAll world.store id world.now (world.plan.effects call)
      (failure, { world with store := store, plan := world.plan.note call })

def reading {α : Type} (world : Rehearsal σ) (call : StoreCall) (id : String)
    (read : σ → Except StoreError α) : Except StoreError α × Rehearsal σ :=
  match world.strike call id with
  | (some error, world) => (.error error, world)
  | (none, world) => (read world.store, world)

def writing {α : Type} (world : Rehearsal σ) (call : StoreCall) (id : String)
    (write : σ → Except StoreError (α × σ)) : Except StoreError α × Rehearsal σ :=
  match world.strike call id with
  | (some error, world) => (.error error, world)
  | (none, world) =>
      match write world.store with
      | .ok (answer, store) => (.ok answer, { world with store := store })
      | .error error => (.error error, world)

def create (world : Rehearsal σ) (record : Redemption) : Except StoreError Creation × Rehearsal σ :=
  world.writing .create record.id (Store.create · record)

def update (world : Rehearsal σ) (record : Redemption) (expected : Nat) :
    Except StoreError Nat × Rehearsal σ :=
  world.writing .update record.id (Store.update · record expected)

def get? (world : Rehearsal σ) (id : String) :
    Except StoreError (Option Redemption) × Rehearsal σ :=
  world.reading .getById id (Store.get? · id)

def withStatus (world : Rehearsal σ) (status : Status) (chain : Option String) :
    Except StoreError (List Redemption) × Rehearsal σ :=
  world.reading .getByStatus "" (Store.withStatus · status chain)

def delete (world : Rehearsal σ) (id : String) : Except StoreError Bool × Rehearsal σ :=
  world.writing .delete id (Store.delete · id)

def countByStatus (world : Rehearsal σ) (chain : Option String) :
    Except StoreError StatusCounts × Rehearsal σ :=
  world.reading .countByStatus "" (Store.countByStatus · chain)

def statistics (world : Rehearsal σ) (chain : Option String) :
    Except StoreError Statistics × Rehearsal σ :=
  match world.countByStatus chain with
  | (.ok counts, world) => (.ok (Statistics.ofCounts counts), world)
  | (.error error, world) => (.error error, world)

def readable (world : Rehearsal σ) : List Redemption :=
  let records := Status.all.flatMap fun status =>
    match Store.withStatus world.store status none with
    | .ok records => records
    | .error _ => []
  records.mergeSort (fun left right => decide (left.id ≤ right.id))

/-! ## Calls -/

def place (world : Rehearsal σ) (limit : Duration) :
    (call : Call) → (Nat × Option call.Reply) × Rehearsal σ
  | .fetch transaction =>
      ((world.fetches.upcoming transaction).within limit,
        { world with
          fetches := world.fetches.advance transaction
          calls := .fetch transaction :: world.calls })
  | .submit payload event =>
      ((world.submissions.upcoming event.sourceTxHash).within limit,
        { world with
          submissions := world.submissions.advance event.sourceTxHash
          calls := .submit payload event :: world.calls })

/-! ## Requests

Whatever takes no time is answered at once. -/

def announce (world : Rehearsal σ) (milestone : Milestone) : Rehearsal σ :=
  { world with journal := milestone.line (world.clock * 1000000) :: world.journal }

/-- Answers calls without letting time pass. -/
def answerAtOnce : Surroundings (Rehearsal σ)
  | world, .listRecords status chain => world.withStatus status chain
  | world, .readClock => (world.now, world)
  | world, .create record => world.create record
  | world, .update record expected => world.update record expected
  | world, .perform call limit =>
      let ((_, reply), world) := world.place limit call
      (reply, world)
  | world, .announce milestone => ((), world.announce milestone)

def observe (world : Rehearsal σ) (raw : RawEvent) : IntakeResult × Rehearsal σ :=
  Activity.run answerAtOnce world (Intake.start world.settings.listener raw)

def intake (world : Rehearsal σ) (events : List RawEvent) : IntakeStatistics × Rehearsal σ :=
  IntakeLoop.drain observe world {} events

/-! ## Time

Service and intake take turns: the intake takes what was sent to it when the
service begins to wait. An errand due at the very moment at which the service
goes on comes before that, so what it sends is taken at the next wait. -/

def takeWaiting (world : Rehearsal σ) : Rehearsal σ :=
  { (world.intake world.waiting).2 with waiting := [] }

def perform (world : Rehearsal σ) : Errand → Rehearsal σ
  | .send event =>
      if world.intakeOpen then
        { world with waiting := world.waiting ++ [event], sent := true :: world.sent }
      else { world with sent := false :: world.sent }
  | .stop => { world with runningAtStop := world.loop.isRunning, loop := world.loop.stop }

def performUntil (time : Nat) (world : Rehearsal σ) :
    List (Nat × Errand) → Rehearsal σ
  | [] => { world with errands := [] }
  | (moment, errand) :: later =>
      if moment ≤ time then
        let world := { world with clock := max world.clock moment }.perform errand
        performUntil time (if moment < time then world.takeWaiting else world) later
      else { world with errands := (moment, errand) :: later }

def elapse (world : Rehearsal σ) (milliseconds : Nat) : Rehearsal σ :=
  if milliseconds = 0 then world
  else
    let time := world.clock + milliseconds
    let world := performUntil time world.takeWaiting world.errands
    { world with clock := time }

def answer : Surroundings (Rehearsal σ)
  | world, .perform call limit =>
      let ((wait, reply), world) := world.place limit call
      (reply, world.elapse wait)
  | world, request => answerAtOnce world request

/-! ## Steps of the relay -/

def batch (world : Rehearsal σ) (phase : Phase) (chain : Option String) :
    BatchResult × Rehearsal σ :=
  Activity.run answer world (Batch.start phase world.settings.policy chain)

def tick (world : Rehearsal σ) : Option TickReport × Rehearsal σ :=
  world.settings.tick answer world

end Rehearsal

end RedemptionRelay
