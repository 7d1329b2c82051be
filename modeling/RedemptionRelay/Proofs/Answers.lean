import RedemptionRelay.Batch
import RedemptionRelay.Intake

/-! # What an answer does

One case for each stage of a batch or an intake and each kind of answer.
Whatever holds in their course is shown case by case along these.
-/

namespace RedemptionRelay

namespace Batch

inductive Answered (batch : Batch) : (request : Request) → request.Answer → Batch → Prop where
  | read {loaded found : List Redemption} {status : Status} {later : List Status}
      (stage : batch.stage = .loading loaded status later) :
      Answered batch (.listRecords status batch.chain) (.ok found)
        (batch.load (loaded ++ found) later)
  | unread {loaded : List Redemption} {status : Status} {later : List Status} {error : StoreError}
      (stage : batch.stage = .loading loaded status later) :
      Answered batch (.listRecords status batch.chain) (.error error)
        (batch.move (.finished (.unreadable error)))
  | admitted {record : Redemption} {queue : List Redemption} {now : Nat}
      (stage : batch.stage = .admitting record queue) :
      Answered batch .readClock now
        (batch.afterDecision record now queue (batch.policy.decide batch.phase record now))
  | claimed {record : Redemption} {leaseUntil now : Nat} {attempt : Attempt}
      {queue : List Redemption} (stage : batch.stage = .claiming record leaseUntil attempt queue) :
      Answered batch .readClock now
        (batch.move (.leasing (record.claim leaseUntil now) attempt queue))
  | leased {claimed : Redemption} {attempt : Attempt} {queue : List Redemption} {version : Nat}
      (stage : batch.stage = .leasing claimed attempt queue) :
      Answered batch (.update claimed claimed.version) (.ok version)
        (batch.move (.calling { claimed with version := version } attempt queue))
  | unleased {claimed : Redemption} {attempt : Attempt} {queue : List Redemption}
      {error : StoreError} (stage : batch.stage = .leasing claimed attempt queue) :
      Answered batch (.update claimed claimed.version) (.error error)
        (batch.afterFailedWrite queue error)
  | replied {claimed : Redemption} {attempt : Attempt} {queue : List Redemption}
      {reply : Option attempt.call.Reply} (stage : batch.stage = .calling claimed attempt queue) :
      Answered batch (.perform attempt.call attempt.limit) reply
        (batch.move (.marking claimed
          (batch.policy.conclude claimed attempt.started attempt.call reply).1
          (batch.policy.conclude claimed attempt.started attempt.call reply).2 queue))
  | marked {record : Redemption} {mark : Mark} {outcome : Outcome} {queue : List Redemption}
      {now : Nat} (stage : batch.stage = .marking record mark outcome queue) :
      Answered batch .readClock now (batch.move (.logging record mark now outcome queue))
  | logged {record next : Redemption} {mark : Mark} {outcome : Outcome} {queue : List Redemption}
      {now logged : Nat} (stage : batch.stage = .logging record mark now outcome queue)
      (changed : record.apply mark now logged = .ok next) :
      Answered batch .readClock logged (batch.move (.committing next outcome queue))
  | forbidden {record : Redemption} {mark : Mark} {outcome : Outcome} {queue : List Redemption}
      {now logged : Nat} {error : TransitionError}
      (stage : batch.stage = .logging record mark now outcome queue)
      (unchanged : record.apply mark now logged = .error error) :
      Answered batch .readClock logged (batch.close .failed queue)
  | committed {next : Redemption} {outcome : Outcome} {queue : List Redemption} {version : Nat}
      (stage : batch.stage = .committing next outcome queue) :
      Answered batch (.update next next.version) (.ok version)
        (batch.afterCommit next outcome queue)
  | uncommitted {next : Redemption} {outcome : Outcome} {queue : List Redemption}
      {error : StoreError} (stage : batch.stage = .committing next outcome queue) :
      Answered batch (.update next next.version) (.error error)
        (batch.afterFailedWrite queue error)
  | announced {milestone : Milestone} {outcome : Outcome} {queue : List Redemption}
      (stage : batch.stage = .announcing milestone outcome queue) :
      Answered batch (.announce milestone) () (batch.close outcome queue)

variable {batch : Batch} {request : Request} {resume : request.Answer → Batch}

theorem answered_of_next (asks : batch.next = .ask request resume) (answer : request.Answer) :
    batch.Answered request answer (resume answer) := by
  unfold next at asks
  cases stage : batch.stage <;> rw [stage] at asks <;> cases asks
  case loading => cases answer with
    | ok found => exact .read stage
    | error error => exact .unread stage
  case admitting => exact .admitted stage
  case claiming => exact .claimed stage
  case leasing => cases answer with
    | ok version => exact .leased stage
    | error error => exact .unleased stage
  case calling => exact .replied stage
  case marking => exact .marked stage
  case logging record mark now outcome queue =>
    dsimp only
    cases changed : record.apply mark now answer with
    | ok next => exact .logged stage changed
    | error error => exact .forbidden stage changed
  case committing => cases answer with
    | ok version => exact .committed stage
    | error error => exact .uncommitted stage
  case announcing => exact .announced stage

end Batch

/-! ## At work and between records -/

/-- From the decision on a record to the commit. -/
def Stage.isBusy : Stage → Bool
  | .claiming _ _ _ _ | .leasing _ _ _ | .calling _ _ _ => true
  | .marking _ _ _ _ | .logging _ _ _ _ _ | .committing _ _ _ => true
  | _ => false

namespace Batch

/-- The batch is done with a record, or has not begun with one. -/
structure Rests (batch next : Batch) : Prop where
  phase : next.phase = batch.phase
  policy : next.policy = batch.policy
  chain : next.chain = batch.chain
  free : next.stage.isBusy = false

/-- The steps from one busy stage to the next, and those to the first. -/
inductive Works (batch : Batch) : (request : Request) → request.Answer → Stage → Prop where
  | abandoned {record : Redemption} {queue : List Redemption} {now : Nat} {error : String}
      (stage : batch.stage = .admitting record queue)
      (decided : batch.policy.decide batch.phase record now = .abandon error) :
      Works batch .readClock now (.marking record (.failed error) .failed queue)
  | admitted {record : Redemption} {queue : List Redemption} {now leaseUntil : Nat} {call : Call}
      {limit : Duration} (stage : batch.stage = .admitting record queue)
      (decided : batch.policy.decide batch.phase record now = .attempt call limit leaseUntil) :
      Works batch .readClock now (.claiming record leaseUntil ⟨call, limit, now⟩ queue)
  | claimed {record : Redemption} {leaseUntil now : Nat} {attempt : Attempt}
      {queue : List Redemption} (stage : batch.stage = .claiming record leaseUntil attempt queue) :
      Works batch .readClock now (.leasing (record.claim leaseUntil now) attempt queue)
  | leased {claimed : Redemption} {attempt : Attempt} {queue : List Redemption} {version : Nat}
      (stage : batch.stage = .leasing claimed attempt queue) :
      Works batch (.update claimed claimed.version) (.ok version)
        (.calling { claimed with version := version } attempt queue)
  | replied {claimed : Redemption} {attempt : Attempt} {queue : List Redemption}
      {reply : Option attempt.call.Reply} (stage : batch.stage = .calling claimed attempt queue) :
      Works batch (.perform attempt.call attempt.limit) reply
        (.marking claimed
          (batch.policy.conclude claimed attempt.started attempt.call reply).1
          (batch.policy.conclude claimed attempt.started attempt.call reply).2 queue)
  | marked {record : Redemption} {mark : Mark} {outcome : Outcome} {queue : List Redemption}
      {now : Nat} (stage : batch.stage = .marking record mark outcome queue) :
      Works batch .readClock now (.logging record mark now outcome queue)
  | logged {record next : Redemption} {mark : Mark} {outcome : Outcome} {queue : List Redemption}
      {now logged : Nat} (stage : batch.stage = .logging record mark now outcome queue)
      (changed : record.apply mark now logged = .ok next) :
      Works batch .readClock logged (.committing next outcome queue)

variable {batch next : Batch} {request : Request} {answer : request.Answer}
  {queue : List Redemption}

theorem rests_proceed : batch.Rests (batch.proceed queue) := by
  cases queue <;> exact ⟨rfl, rfl, rfl, rfl⟩

theorem rests_load {later : List Status} : batch.Rests (batch.load queue later) := by
  cases later with
  | nil => exact rests_proceed
  | cons status later => exact ⟨rfl, rfl, rfl, rfl⟩

theorem rests_close {outcome : Outcome} : batch.Rests (batch.close outcome queue) := by
  cases queue <;> exact ⟨rfl, rfl, rfl, rfl⟩

theorem rests_afterFailedWrite {error : StoreError} :
    batch.Rests (batch.afterFailedWrite queue error) := by
  cases error <;> exact rests_close

theorem rests_afterCommit {record : Redemption} {outcome : Outcome} :
    batch.Rests (batch.afterCommit record outcome queue) := by
  dsimp only [afterCommit]
  cases milestone? record outcome with
  | some milestone => exact ⟨rfl, rfl, rfl, rfl⟩
  | none => exact rests_close

theorem rests_or_works (answered : batch.Answered request answer next) :
    batch.Rests next ∨ ∃ stage, batch.Works request answer stage ∧ next = batch.move stage := by
  cases answered with
  | read => exact .inl rests_load
  | unread => exact .inl ⟨rfl, rfl, rfl, rfl⟩
  | @admitted record queue now stage =>
      cases decided : batch.policy.decide batch.phase record now with
      | skip reason => exact .inl rests_close
      | abandon error => exact .inr ⟨_, .abandoned stage decided, rfl⟩
      | attempt call limit leaseUntil => exact .inr ⟨_, .admitted stage decided, rfl⟩
      | overflow => exact .inl ⟨rfl, rfl, rfl, rfl⟩
  | claimed stage => exact .inr ⟨_, .claimed stage, rfl⟩
  | leased stage => exact .inr ⟨_, .leased stage, rfl⟩
  | replied stage => exact .inr ⟨_, .replied stage, rfl⟩
  | marked stage => exact .inr ⟨_, .marked stage, rfl⟩
  | logged stage changed => exact .inr ⟨_, .logged stage changed, rfl⟩
  | forbidden => exact .inl rests_close
  | committed => exact .inl rests_afterCommit
  | unleased | uncommitted => exact .inl rests_afterFailedWrite
  | announced => exact .inl rests_close

end Batch

namespace Intake

inductive Answered : Intake → (request : Request) → request.Answer → Intake → Prop where
  | stamped {chain : String} {event : Event} {now : Nat} :
      Answered (.stamping chain event) .readClock now (.logging chain event now)
  | logged {chain : String} {event : Event} {now logged : Nat} :
      Answered (.logging chain event now) .readClock logged
        (.creating (Redemption.observed chain event now logged))
  | created {record : Redemption} :
      Answered (.creating record) (.create record) (.ok .created) (.announcing record)
  | duplicate {record : Redemption} :
      Answered (.creating record) (.create record) (.ok .alreadyExists)
        (.finished (.ok (.duplicate record.id)))
  | uncreated {record : Redemption} {error : StoreError} :
      Answered (.creating record) (.create record) (.error error) (.finished (.error error))
  | announced {record : Redemption} :
      Answered (.announcing record) (.announce (.observed record)) ()
        (.finished (.ok (.created record.id)))

variable {intake : Intake} {request : Request} {resume : request.Answer → Intake}

theorem answered_of_next (asks : intake.next = .ask request resume) (answer : request.Answer) :
    intake.Answered request answer (resume answer) := by
  cases intake <;> cases asks
  case stamping => exact .stamped
  case logging => exact .logged
  case creating => cases answer with
    | ok creation => cases creation with
      | created => exact .created
      | alreadyExists => exact .duplicate
    | error error => exact .uncreated
  case announcing => exact .announced

end Intake

end RedemptionRelay
