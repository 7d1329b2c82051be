import RedemptionRelay.Proofs.Fleet.Consistency
import RedemptionRelay.Proofs.Redemption.Account

/-! # Who owes a line

A worker that has stored a state has the line about it as the next thing to do,
if the state calls for one, and nobody else is about to write a line. The line
of a commit is chosen from a copy that was changed before the write; that it is
the line of the change that landed goes back to where the copy comes from.
-/

namespace RedemptionRelay

def Stage.line? : Stage → Option Milestone
  | .announcing milestone _ _ => some milestone
  | _ => none

def Intake.line? : Intake → Option Milestone
  | .announcing record => some (.observed record)
  | _ => none

def Job.line? : Job → Option Milestone
  | .batch work => work.stage.line?
  | .intake work => work.line?

def Request.line? : Request → Option Milestone
  | .announce milestone => some milestone
  | _ => none

def Deed.line? : Deed → Option Milestone
  | .announced milestone => some milestone
  | _ => none

def linesAbout (id : String) (lines : List Milestone) : List Milestone :=
  lines.filter (·.redemptionId == id)

def linesIn (history : List HistoryEntry) (id : String) : List Milestone :=
  linesAbout id (history.filterMap (·.deed.line?))

namespace Batch

variable {batch : Batch} {queue : List Redemption}

theorem line?_proceed : (batch.proceed queue).stage.line? = none := by
  cases queue <;> rfl

theorem line?_load {later : List Status} : (batch.load queue later).stage.line? = none := by
  cases later with
  | nil => exact line?_proceed
  | cons status later => rfl

theorem line?_afterFailedWrite {error : StoreError} :
    (batch.afterFailedWrite queue error).stage.line? = none := by
  cases error <;> exact line?_proceed

theorem line?_afterCommit {record : Redemption} {outcome : Outcome} :
    (batch.afterCommit record outcome queue).stage.line? = milestone? record outcome := by
  dsimp only [afterCommit]
  cases milestone? record outcome with
  | some milestone => rfl
  | none => exact line?_proceed

variable {request : Request} {answer : request.Answer} {next : Batch}

theorem line?_of_answered (answered : batch.Answered request answer next) :
    batch.stage.line? = request.line? := by
  cases answered with
  | read stage | unread stage | admitted stage | claimed stage | leased stage | unleased stage
  | replied stage | marked stage | logged stage | forbidden stage | committed stage
  | uncommitted stage | announced stage =>
      rw [stage]
      rfl

theorem line?_of_unwritten (answered : batch.Answered request answer next)
    (silent : request.written? answer = none) : next.stage.line? = none := by
  cases answered with
  | read => exact line?_load
  | @admitted record queue now =>
      cases batch.policy.decide batch.phase record now with
      | skip => exact line?_proceed
      | abandon | attempt | overflow => rfl
  | leased | committed => cases silent
  | unleased | uncommitted => exact line?_afterFailedWrite
  | forbidden | announced => exact line?_proceed
  | unread | claimed | replied | marked | logged => rfl

end Batch

theorem RetryPolicy.released_or_moved (policy : RetryPolicy) (claimed : Redemption) (started : Nat)
    (call : Call) (reply : Option call.Reply) :
    policy.conclude claimed started call reply = (.release, .skipped .notYetAvailable) ∨
      (policy.conclude claimed started call reply).1.target?.isSome ∧
        ∀ reason, (policy.conclude claimed started call reply).2 ≠ .skipped reason := by
  cases call with
  | fetch tx =>
      rcases reply with _ | (error | fetched)
      · exact .inr ⟨rfl, nofun⟩
      · exact .inr ⟨rfl, nofun⟩
      · cases fetched with
        | available | permanentFailure => exact .inr ⟨rfl, nofun⟩
        | notYetAvailable =>
            dsimp only [conclude, concludeFetch]
            split
            · exact .inr ⟨rfl, nofun⟩
            · exact .inl rfl
  | submit payload event =>
      rcases reply with _ | (error | settlement)
      · exact .inr ⟨rfl, nofun⟩
      · dsimp only [conclude, concludeSubmit]
        split <;> exact .inr ⟨rfl, nofun⟩
      · exact .inr ⟨rfl, nofun⟩

namespace Mandate

variable {mandate : Mandate} {outlook : Outlook} {record next : Redemption} {mark : Mark}
  {outcome : Outcome} {now logged : Nat}

theorem Owes.released_or_moved (owes : mandate.Owes outlook record mark outcome) :
    (mark = .release ∧ outcome = .skipped .notYetAvailable) ∨
      mark.target?.isSome ∧ ∀ reason, outcome ≠ .skipped reason := by
  cases owes with
  | abandoned => exact .inr ⟨rfl, nofun⟩
  | @concluded attempt reply _ =>
      rcases mandate.policy.released_or_moved record attempt.started attempt.call reply with
        released | moved
      · exact .inl ⟨congrArg Prod.fst released, congrArg Prod.snd released⟩
      · exact .inr moved

theorem Owes.milestone? (owes : mandate.Owes outlook record mark outcome)
    (consistent : record.Consistent) (changed : record.apply mark now logged = .ok next) :
    Batch.milestone? next outcome = record.changeLine? next := by
  rcases owes.released_or_moved with ⟨rfl, rfl⟩ | ⟨moves, notSkipped⟩
  · exact (Redemption.changeLine?_of_unmoved changed rfl).symm
  · rw [Redemption.changeLine?_of_moved changed moves
      (consistent.of_apply owes.found.alive changed)]
    cases outcome with
    | skipped reason => exact absurd rfl (notSkipped reason)
    | advanced | failed => rfl

end Mandate

namespace Batch

variable {batch successor : Batch} {outlook : Outlook} {next : Redemption} {expected version : Nat}

theorem Traced.line?_of_update (traced : batch.Traced outlook)
    (consistent : ∀ record, outlook.known record → record.Consistent)
    (answered : batch.Answered (.update next expected) (.ok version) successor) :
    ∃ base, outlook.known base ∧ base.id = next.id ∧ base.version = expected ∧
      successor.stage.line? = base.changeLine? next := by
  unfold Traced at traced
  cases answered with
  | leased stage =>
      rw [stage] at traced
      rcases traced with ⟨⟨base, leaseUntil, now, admits, rfl⟩, -⟩
      have applied : base.apply (.claim leaseUntil) now now = .ok (base.claim leaseUntil now) := rfl
      exact ⟨base, admits.found.known, rfl, rfl,
        (Redemption.changeLine?_of_unmoved applied rfl).symm⟩
  | committed stage =>
      rw [stage] at traced
      rcases traced with ⟨⟨base, mark, now, logged, owes, changed⟩, -⟩
      have known := owes.found.known
      refine ⟨base, known, (Redemption.sameRequest_of_apply changed).id.symm,
        (Redemption.version_of_apply changed).symm, ?_⟩
      rw [line?_afterCommit, owes.milestone? (consistent base known) changed]

end Batch

namespace Job

variable {job successor : Job} {request : Request} {answer : request.Answer}

theorem line?_of_answered (answered : job.Answered request answer successor) :
    job.line? = request.line? := by
  cases answered with
  | batch answered => exact Batch.line?_of_answered answered
  | intake answered => cases answered <;> rfl

theorem line?_of_unwritten (answered : job.Answered request answer successor)
    (silent : request.written? answer = none) : successor.line? = none := by
  cases answered with
  | batch answered => exact Batch.line?_of_unwritten answered silent
  | intake answered =>
      cases answered with
      | created => cases silent
      | stamped | logged | duplicate | uncreated | announced => rfl

theorem line?_of_create {record : Redemption}
    (answered : job.Answered (.create record) (.ok .created) successor) :
    successor.line? = some (.observed record) := by
  cases answered with
  | batch answered => cases answered
  | intake answered =>
      cases answered
      rfl

theorem Traced.line?_of_update {outlook : Outlook} {next : Redemption} {expected version : Nat}
    (traced : job.Traced outlook) (consistent : ∀ record, outlook.known record → record.Consistent)
    (answered : job.Answered (.update next expected) (.ok version) successor) :
    ∃ base, outlook.known base ∧ base.id = next.id ∧ base.version = expected ∧
      successor.line? = base.changeLine? next := by
  cases answered with
  | batch answered => exact Batch.Traced.line?_of_update traced consistent answered
  | intake answered => cases answered

end Job

theorem Redemption.id_of_nextLine? {last : Option Redemption} {next : Redemption}
    {milestone : Milestone} (due : nextLine? last next = some milestone) :
    milestone.redemptionId = next.id := by
  cases last with
  | none =>
      cases due
      rfl
  | some last =>
      simp only [nextLine?, changeLine?] at due
      split at due
      · cases due
      · rcases Option.map_eq_some_iff.mp due with ⟨kind, -, rfl⟩
        rfl

namespace Fleet

variable {σ : Type} {origin : String → Option Redemption} {fleet : Fleet σ} {index : Nat}
  {member after : Member} {store : σ} {deeds : List Deed} {id : String}

def owed (fleet : Fleet σ) (id : String) : List Milestone :=
  linesAbout id (fleet.members.filterMap (·.job.line?))

/-! ## Moves -/

variable [Store σ]

/-- What a move does to the journal: it writes a line that was owed, or it stores
a state and now owes the line about it, or it does neither. -/
inductive Notes (origin : String → Option Redemption) (fleet : Fleet σ) (member after : Member) :
    List Deed → Prop where
  | nothing {deeds : List Deed} (quiet : ∀ record, .stored record ∉ deeds)
      (silent : deeds.filterMap Deed.line? = []) (same : after.job.line? = member.job.line?) :
      Notes origin fleet member after deeds
  | stored {record : Redemption} (free : member.job.line? = none)
      (owes : after.job.line? =
        Redemption.nextLine? (fleet.trail origin record.id).getLast? record) :
      Notes origin fleet member after [.stored record]
  | wrote {milestone : Milestone} (owed : member.job.line? = some milestone)
      (free : after.job.line? = none) : Notes origin fleet member after [.announced milestone]

variable [LawfulStore σ]

theorem Coherent.notes_of_acts (coherent : fleet.Coherent origin)
    (before : ∀ id record, origin id = some record → record.Consistent)
    (there : fleet.members[index]? = some member) {action : Action}
    (acts : fleet.Acts member action after store deeds) :
    fleet.Notes origin member after deeds := by
  cases acts with
  | @proceeded request answer next store deeds _ answered fits serves =>
      have served := coherent.served_of_answer? there answered fits serves
      have lineBefore := Job.line?_of_answered answered
      have lineAfter (silent : request.written? answer = none) :
          (member.goOn fleet.clock next).job.line? = none := by
        rw [Member.job_goOn]
        exact Job.line?_of_unwritten answered silent
      cases served with
      | listed | stamped | taken | stale =>
          refine .nothing (by simp) (by simp [Deed.line?]) ?_
          rw [lineBefore, lineAfter rfl]
          rfl
      | announced => exact .wrote lineBefore (lineAfter rfl)
      | @created record _ begun vacant lands =>
          refine .stored lineBefore ?_
          rw [Member.job_goOn, Job.line?_of_create answered, ← coherent.current, vacant]
          rcases begun with ⟨chain, event, now, logged, -, rfl⟩
          rfl
      | @updated base next expected _ isBase precedes current _ lands =>
          refine .stored lineBefore ?_
          have consistent : ∀ record, (fleet.outlook origin index member).known record →
              record.Consistent :=
            fun record known => coherent.consistent_of_known before known
          rcases (coherent.traced _ _ there).line?_of_update consistent answered with
            ⟨base', known, sameId, sameVersion, line⟩
          have sameNext : next.id = base.id := precedes.id
          have same : base' = base := by
            have knownBase := coherent.known_of_current current
            rw [← sameNext, ← sameId] at knownBase
            exact coherent.eq_of_version known knownBase (sameVersion.trans isBase.symm)
          have isLast : (fleet.trail origin next.id).getLast? = some base := by
            rw [sameNext, ← coherent.current, current]
          rw [Member.job_goOn, line, same]
          show base.changeLine? next = Redemption.nextLine? (fleet.trail origin next.id).getLast? _
          rw [isLast]
          rfl
  | @failed error request answer next deeds _ answered fails =>
      refine .nothing (quiet_of_failure? fails) ?_ ?_
      · cases request <;> cases fails <;> rfl
      · rw [Job.line?_of_answered answered]
        refine (Job.line?_of_unwritten answered ?_).trans ?_ <;>
          cases request <;> cases fails <;> rfl
  | called => exact .nothing (by simp) (by simp [Deed.line?]) rfl
  | heard _ _ _ answered =>
      refine .nothing (by simp) (by simp [Deed.line?]) ?_
      rw [Job.line?_of_answered answered]
      exact Job.line?_of_unwritten answered rfl
  | unheard | halted => exact .nothing (by simp) rfl rfl

end Fleet

end RedemptionRelay
