import RedemptionRelay.Batch
import RedemptionRelay.Intake

/-! # The service

A tick runs both batches of every configured chain, one after the other. The
service ticks in a fixed rhythm until it is asked to stop; the request is
noticed before the next tick.
-/

namespace RedemptionRelay

structure ServiceSettings where
  chains : List Chain
  policy : RetryPolicy
  pollMilliseconds : Nat

/-! ## Ticks -/

structure TickReport where
  attestations : Summary := {}
  settlements : Summary := {}
  /-- Batches whose records could not be read. -/
  failedBatches : Nat := 0
  /-- Those of them that the next tick will not mend. -/
  fatalBatches : Nat := 0
deriving DecidableEq, Repr

namespace TickReport

def hasActivity (report : TickReport) : Bool :=
  report.attestations.hasActivity || report.settlements.hasActivity

def addSummary (report : TickReport) (phase : Phase) (summary : Summary) : TickReport :=
  match phase with
  | .attestation => { report with attestations := report.attestations.add summary }
  | .settlement => { report with settlements := report.settlements.add summary }

def addFailure (report : TickReport) (error : StoreError) : TickReport :=
  { report with
    failedBatches := report.failedBatches + 1
    fatalBatches := report.fatalBatches + if error.isUnavailable then 0 else 1 }

/-- The report with one more batch, unless that batch broke off. -/
def addBatch? (report : TickReport) (phase : Phase) : BatchResult → Option TickReport
  | .summary summary => some (report.addSummary phase summary)
  | .unreadable error => some (report.addFailure error)
  | .overflow => none

def text (report : TickReport) : String :=
  s!"attestations: [{report.attestations.text}], settlements: [{report.settlements.text}], " ++
  s!"failed batches: {report.failedBatches} ({report.fatalBatches} fatal)"

end TickReport

namespace ServiceSettings

def batches (settings : ServiceSettings) : List (Phase × String) :=
  settings.chains.flatMap fun chain =>
    [(.attestation, chain.name), (.settlement, chain.name)]

def runBatches {World : Type} (surroundings : Surroundings World) (policy : RetryPolicy)
    (report : TickReport) (world : World) : List (Phase × String) → Option TickReport × World
  | [] => (some report, world)
  | (phase, chain) :: rest =>
      let (result, world) := Activity.run surroundings world (Batch.start phase policy (some chain))
      match report.addBatch? phase result with
      | some report => runBatches surroundings policy report world rest
      | none => (none, world)

/-- The phase of the batch that breaks off, or else of the last one. -/
def lastPhase {World : Type} (surroundings : Surroundings World) (policy : RetryPolicy)
    (last : Phase) (world : World) : List (Phase × String) → Phase
  | [] => last
  | (phase, chain) :: rest =>
      match Activity.run surroundings world (Batch.start phase policy (some chain)) with
      | (.overflow, _) => phase
      | (_, world) => lastPhase surroundings policy phase world rest

def tick {World : Type} (settings : ServiceSettings) (surroundings : Surroundings World)
    (world : World) : Option TickReport × World :=
  runBatches surroundings settings.policy {} world settings.batches

def listener (settings : ServiceSettings) : Listener :=
  ⟨settings.chains⟩

end ServiceSettings

/-! ## The loop

Running sets the flag, then alternates between looking at it, ticking and
sleeping. Stopping clears the flag at any moment. -/

inductive LoopPosition where
  | idle
  | checking
  | ticking
  | sleeping
  | draining
  | ended
deriving DecidableEq, Repr

structure ServiceLoop where
  position : LoopPosition := .idle
  isRunning : Bool := false
deriving DecidableEq, Repr

namespace ServiceLoop

def step (loop : ServiceLoop) : ServiceLoop :=
  match loop.position with
  | .idle => { position := .checking, isRunning := true }
  | .checking => { loop with position := if loop.isRunning then .ticking else .draining }
  | .ticking => { loop with position := .sleeping }
  | .sleeping => { loop with position := .checking }
  | .draining => { loop with position := .ended }
  | .ended => loop

def stop (loop : ServiceLoop) : ServiceLoop :=
  { loop with isRunning := false }

end ServiceLoop

end RedemptionRelay
