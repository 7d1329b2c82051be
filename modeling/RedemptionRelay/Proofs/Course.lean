import RedemptionRelay.Proofs.Answers
import RedemptionRelay.Proofs.Activity

/-! # The course of a job

An intake or a batch that is carried to its end in one go does its work piece by
piece: the intake records one request, the batch attends to one record after the
other. Both are told here in this way, in any surroundings, and shown to be what
the steps of the job come to.
-/

namespace RedemptionRelay

variable {World : Type} (surroundings : Surroundings World) {world : World}

namespace Intake

/-- Two looks at the clock, the creation, and the milestone if it is a new record. -/
def enter (chain : String) (event : Event) (world : World) : IntakeResult × World :=
  let (now, world) := surroundings world .readClock
  let (logged, world) := surroundings world .readClock
  let record := Redemption.observed chain event now logged
  match surroundings world (.create record) with
  | (.ok .created, world) =>
      (.ok (.created record.id), (surroundings world (.announce (.observed record))).2)
  | (.ok .alreadyExists, world) => (.ok (.duplicate record.id), world)
  | (.error error, world) => (.error error, world)

theorem run_start (listener : Listener) (raw : RawEvent) :
    Activity.run surroundings world (start listener raw) =
      match listener.request raw with
      | .ok event => enter surroundings raw.chain event world
      | .error reason => (.ok (.skipped reason), world) := by
  unfold start
  cases listener.request raw with
  | error reason => exact Activity.run_of_done rfl
  | ok event =>
      unfold enter
      refine Eq.trans (Activity.run_of_ask rfl) ?_
      rcases surroundings world .readClock with ⟨now, world⟩
      dsimp only
      refine Eq.trans (Activity.run_of_ask rfl) ?_
      rcases surroundings world .readClock with ⟨logged, world⟩
      dsimp only
      refine Eq.trans (Activity.run_of_ask rfl) ?_
      rcases surroundings world (.create (Redemption.observed raw.chain event now logged)) with
        ⟨error | creation, world⟩
      · exact Activity.run_of_done rfl
      · cases creation with
        | created => exact Eq.trans (Activity.run_of_ask rfl) (Activity.run_of_done rfl)
        | alreadyExists => exact Activity.run_of_done rfl

end Intake

namespace Batch

/-- What a write that is turned down makes of an attempt. -/
def loss : StoreError → Outcome
  | .versionConflict _ _ => .skipped .versionConflict
  | _ => .failed

theorem afterFailedWrite_eq_close (batch : Batch) (queue : List Redemption) (error : StoreError) :
    batch.afterFailedWrite queue error = batch.close (loss error) queue := by
  cases error <;> rfl

/-! ## One record -/

def conclude (record : Redemption) (mark : Mark) (outcome : Outcome) (world : World) :
    Outcome × World :=
  let (now, world) := surroundings world .readClock
  let (logged, world) := surroundings world .readClock
  match record.apply mark now logged with
  | .error _ => (.failed, world)
  | .ok next =>
      match surroundings world (.update next next.version) with
      | (.error error, world) => (loss error, world)
      | (.ok _, world) =>
          match milestone? next outcome with
          | some milestone => (outcome, (surroundings world (.announce milestone)).2)
          | none => (outcome, world)

def commit (next : Redemption) (outcome : Outcome) (world : World) : Outcome × World :=
  match surroundings world (.update next next.version) with
  | (.error error, world) => (loss error, world)
  | (.ok _, world) =>
      match milestone? next outcome with
      | some milestone => (outcome, (surroundings world (.announce milestone)).2)
      | none => (outcome, world)

theorem conclude_eq (record : Redemption) (mark : Mark) (outcome : Outcome) :
    conclude surroundings record mark outcome world =
      let (now, world) := surroundings world .readClock
      let (logged, world) := surroundings world .readClock
      match record.apply mark now logged with
      | .error _ => (.failed, world)
      | .ok next => commit surroundings next outcome world :=
  rfl

def pursue (policy : RetryPolicy) (record : Redemption) (leaseUntil : Nat) (attempt : Attempt)
    (world : World) : Outcome × World :=
  let (now, world) := surroundings world .readClock
  let claimed := record.claim leaseUntil now
  match surroundings world (.update claimed claimed.version) with
  | (.error error, world) => (loss error, world)
  | (.ok version, world) =>
      let claimed := { claimed with version := version }
      let (reply, world) := surroundings world (.perform attempt.call attempt.limit)
      let (mark, outcome) := policy.conclude claimed attempt.started attempt.call reply
      conclude surroundings claimed mark outcome world

def carryOut (policy : RetryPolicy) (claimed : Redemption) (attempt : Attempt) (world : World) :
    Outcome × World :=
  let (reply, world) := surroundings world (.perform attempt.call attempt.limit)
  let (mark, outcome) := policy.conclude claimed attempt.started attempt.call reply
  conclude surroundings claimed mark outcome world

theorem pursue_eq (policy : RetryPolicy) (record : Redemption) (leaseUntil : Nat)
    (attempt : Attempt) :
    pursue surroundings policy record leaseUntil attempt world =
      let (now, world) := surroundings world .readClock
      let claim := record.claim leaseUntil now
      match surroundings world (.update claim record.version) with
      | (.error error, world) => (loss error, world)
      | (.ok version, world) =>
          carryOut surroundings policy { claim with version := version } attempt world := by
  unfold pursue
  rcases surroundings world .readClock with ⟨now, world⟩
  dsimp only
  rw [show (record.claim leaseUntil now).version = record.version from rfl]
  rcases surroundings world (.update (record.claim leaseUntil now) record.version) with
    ⟨error | version, world⟩ <;> rfl

/-- All that a batch does about a record. There is no outcome where the batch
breaks off. -/
def attend (phase : Phase) (policy : RetryPolicy) (record : Redemption) (world : World) :
    Option Outcome × World :=
  let (now, world) := surroundings world .readClock
  match policy.decide phase record now with
  | .skip reason => (some (.skipped reason), world)
  | .abandon error => (conclude surroundings record (.failed error) .failed world).map some id
  | .attempt call limit leaseUntil =>
      (pursue surroundings policy record leaseUntil ⟨call, limit, now⟩ world).map some id
  | .overflow => (none, world)

section

variable (batch : Batch) (record : Redemption) (queue : List Redemption)

theorem run_marking (mark : Mark) (outcome : Outcome) :
    Activity.run surroundings world (batch.move (.marking record mark outcome queue)) =
      Activity.run surroundings (conclude surroundings record mark outcome world).2
        (batch.close (conclude surroundings record mark outcome world).1 queue) := by
  unfold conclude
  refine Eq.trans (Activity.run_of_ask rfl) ?_
  rcases surroundings world .readClock with ⟨now, world⟩
  dsimp only
  refine Eq.trans (Activity.run_of_ask rfl) ?_
  rcases surroundings world .readClock with ⟨logged, world⟩
  dsimp only [move]
  cases record.apply mark now logged with
  | error error => rfl
  | ok next =>
      dsimp only
      refine Eq.trans (Activity.run_of_ask rfl) ?_
      rcases surroundings world (.update next next.version) with ⟨error | version, world⟩
      · exact congrArg (Activity.run surroundings world) (afterFailedWrite_eq_close _ queue error)
      · dsimp only [afterCommit]
        cases milestone? next outcome with
        | none => rfl
        | some milestone => exact Eq.trans (Activity.run_of_ask rfl) rfl

theorem run_claiming (leaseUntil : Nat) (attempt : Attempt) :
    Activity.run surroundings world (batch.move (.claiming record leaseUntil attempt queue)) =
      Activity.run surroundings
        (pursue surroundings batch.policy record leaseUntil attempt world).2
        (batch.close (pursue surroundings batch.policy record leaseUntil attempt world).1 queue) := by
  unfold pursue
  refine Eq.trans (Activity.run_of_ask rfl) ?_
  rcases surroundings world .readClock with ⟨now, world⟩
  dsimp only
  refine Eq.trans (Activity.run_of_ask rfl) ?_
  dsimp only [move]
  rcases surroundings world (.update (record.claim leaseUntil now) _) with ⟨error | version, world⟩
  · exact congrArg (Activity.run surroundings world) (afterFailedWrite_eq_close _ queue error)
  · dsimp only
    refine Eq.trans (Activity.run_of_ask rfl) ?_
    rcases surroundings world (.perform attempt.call attempt.limit) with ⟨reply, world⟩
    exact run_marking ..

theorem run_admitting :
    Activity.run surroundings world (batch.move (.admitting record queue)) =
      match attend surroundings batch.phase batch.policy record world with
      | (some outcome, world) => Activity.run surroundings world (batch.close outcome queue)
      | (none, world) => (.overflow, world) := by
  unfold attend
  refine Eq.trans (Activity.run_of_ask rfl) ?_
  rcases surroundings world .readClock with ⟨now, world⟩
  dsimp only [move]
  cases batch.policy.decide batch.phase record now with
  | skip reason => rfl
  | abandon error => exact run_marking ..
  | attempt call limit leaseUntil => exact run_claiming ..
  | overflow => exact Activity.run_of_done rfl

end

/-! ## All records -/

def attendAll (phase : Phase) (policy : RetryPolicy) (summary : Summary) :
    List Redemption → World → BatchResult × World
  | [], world => (.summary summary, world)
  | record :: queue, world =>
      match attend surroundings phase policy record world with
      | (some outcome, world) => attendAll phase policy (summary.count outcome) queue world
      | (none, world) => (.overflow, world)

theorem run_proceed (batch : Batch) (queue : List Redemption) :
    Activity.run surroundings world (batch.proceed queue) =
      attendAll surroundings batch.phase batch.policy batch.summary queue world := by
  induction queue generalizing batch world with
  | nil => exact Activity.run_of_done rfl
  | cons record queue induction =>
      refine (run_admitting surroundings batch record queue).trans ?_
      unfold attendAll
      rcases attend surroundings batch.phase batch.policy record world with ⟨_ | outcome, world⟩
      · rfl
      · exact induction _

theorem run_start (phase : Phase) (policy : RetryPolicy) (chain : Option String) :
    Activity.run surroundings world (start phase policy chain) =
      match surroundings world (.listRecords phase.waiting chain) with
      | (.error error, world) => (.unreadable error, world)
      | (.ok waiting, world) =>
          match surroundings world (.listRecords phase.retrying chain) with
          | (.error error, world) => (.unreadable error, world)
          | (.ok retrying, world) =>
              attendAll surroundings phase policy {} (waiting ++ retrying) world := by
  refine Eq.trans (Activity.run_of_ask rfl) ?_
  dsimp only [start]
  rcases surroundings world (.listRecords phase.waiting chain) with ⟨error | waiting, world⟩
  · exact Activity.run_of_done rfl
  · dsimp only [load]
    refine Eq.trans (Activity.run_of_ask rfl) ?_
    dsimp only [move]
    rcases surroundings world (.listRecords phase.retrying chain) with ⟨error | retrying, world⟩
    · exact Activity.run_of_done rfl
    · exact run_proceed ..

end Batch

end RedemptionRelay
