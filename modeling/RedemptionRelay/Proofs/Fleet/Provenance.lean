import RedemptionRelay.Proofs.Decision
import RedemptionRelay.Proofs.Fleet.Steps
import RedemptionRelay.Proofs.Redemption.Changes

/-! # Where a worker's records come from

Between two steps a worker carries copies of records. Each goes back to a state
that the store has held: it was read there, or the worker has written it, or it
is such a state with one change applied that is still to be written. The
decision that admitted a record and the reply that is to be stored on it can be
told from the stage as well.
-/

namespace RedemptionRelay

def Request.written? : (request : Request) → request.Answer → Option Redemption
  | .create record => fun
      | .ok .created => some record
      | _ => none
  | .update record _ => fun
      | .ok version => some { record with version := version }
      | .error _ => none
  | _ => fun _ => none

/-! ## What a worker knows -/

structure Outlook where
  /-- The store holds this state of a record, or has held it. -/
  known : Redemption → Prop
  /-- The worker has written it. -/
  own : Redemption → Prop
  /-- A listener has accepted this event on this chain. -/
  accepted : String → Event → Prop
  /-- The second at which the record at hand was admitted. -/
  admitted : Nat

namespace Outlook

def Grants (outlook : Outlook) (isAdmitting : Bool) : (request : Request) → request.Answer → Prop
  | .listRecords status chain => fun
      | .ok found => ∀ record ∈ found,
          outlook.known record ∧ record.status = status ∧ matchesChain chain record.chain = true
      | .error _ => True
  | .readClock => fun now => isAdmitting = true → now = outlook.admitted
  | .create record => fun
      | .ok .created => outlook.known record ∧ outlook.own record
      | _ => True
  | .update record expected => fun
      | .ok version => version = expected + 1 ∧
          outlook.known { record with version := version } ∧
          outlook.own { record with version := version }
      | .error _ => True
  | _ => fun _ => True

/-- More becomes known, while the record at hand stays the same. -/
structure Widens (outlook wider : Outlook) : Prop where
  known : ∀ {record}, outlook.known record → wider.known record
  own : ∀ {record}, outlook.own record → wider.own record
  accepted : ∀ {chain event}, outlook.accepted chain event → wider.accepted chain event
  admitted : wider.admitted = outlook.admitted

end Outlook

/-! ## Batches -/

/-- What stays the same in the course of a batch. -/
structure Mandate where
  phase : Phase
  policy : RetryPolicy
  chain : Option String

def Batch.mandate (batch : Batch) : Mandate :=
  ⟨batch.phase, batch.policy, batch.chain⟩

namespace Mandate

/-- A state of a record that a batch may have read. -/
structure Found (mandate : Mandate) (outlook : Outlook) (record : Redemption) : Prop where
  known : outlook.known record
  status : record.status = mandate.phase.waiting ∨ record.status = mandate.phase.retrying
  chain : matchesChain mandate.chain record.chain = true

/-- The record has been admitted for this attempt. -/
structure Admits (mandate : Mandate) (outlook : Outlook) (record : Redemption) (leaseUntil : Nat)
    (attempt : Attempt) : Prop where
  found : mandate.Found outlook record
  started : attempt.started = outlook.admitted
  decided : mandate.policy.decide mandate.phase record attempt.started =
    .attempt attempt.call attempt.limit leaseUntil

/-- The record has been admitted, and the worker has written the claim. -/
structure Holds (mandate : Mandate) (outlook : Outlook) (claimed : Redemption)
    (attempt : Attempt) : Prop where
  found : mandate.Found outlook claimed
  own : outlook.own claimed
  claim : ∃ record leaseUntil now, mandate.Admits outlook record leaseUntil attempt ∧
    claimed = { record.claim leaseUntil now with version := record.version + 1 }

/-- The change is to be stored on the record, without a call or after one. -/
inductive Owes (mandate : Mandate) (outlook : Outlook) (record : Redemption) :
    Mark → Outcome → Prop where
  | abandoned {error : String} (found : mandate.Found outlook record)
      (decided :
        mandate.policy.decide mandate.phase record outlook.admitted = .abandon error) :
      Owes mandate outlook record (.failed error) .failed
  | concluded {attempt : Attempt} (reply : Option attempt.call.Reply)
      (holds : mandate.Holds outlook record attempt) :
      Owes mandate outlook record
        (mandate.policy.conclude record attempt.started attempt.call reply).1
        (mandate.policy.conclude record attempt.started attempt.call reply).2

variable {mandate : Mandate} {outlook wider : Outlook} {record claimed : Redemption}
  {leaseUntil : Nat} {attempt : Attempt} {mark : Mark} {outcome : Outcome}

theorem Found.widen (found : mandate.Found outlook record) (widens : outlook.Widens wider) :
    mandate.Found wider record :=
  { found with known := widens.known found.known }

theorem Admits.widen (admits : mandate.Admits outlook record leaseUntil attempt)
    (widens : outlook.Widens wider) : mandate.Admits wider record leaseUntil attempt where
  found := admits.found.widen widens
  started := admits.started.trans widens.admitted.symm
  decided := admits.decided

theorem Holds.widen (holds : mandate.Holds outlook claimed attempt)
    (widens : outlook.Widens wider) : mandate.Holds wider claimed attempt where
  found := holds.found.widen widens
  own := widens.own holds.own
  claim := by
    rcases holds.claim with ⟨record, leaseUntil, now, admits, same⟩
    exact ⟨record, leaseUntil, now, admits.widen widens, same⟩

theorem Owes.widen (owes : mandate.Owes outlook record mark outcome)
    (widens : outlook.Widens wider) : mandate.Owes wider record mark outcome := by
  cases owes with
  | abandoned found decided =>
      exact .abandoned (found.widen widens) (widens.admitted ▸ decided)
  | concluded reply holds => exact .concluded reply (holds.widen widens)

theorem Owes.found (owes : mandate.Owes outlook record mark outcome) :
    mandate.Found outlook record := by
  cases owes with
  | abandoned found _ => exact found
  | concluded _ holds => exact holds.found

theorem Admits.unleased (admits : mandate.Admits outlook record leaseUntil attempt) :
    record.isLeased outlook.admitted = false := by
  rw [← admits.started]
  exact RetryPolicy.unleased_of_decide admits.decided (by simp)

theorem Owes.unleased_or_own (owes : mandate.Owes outlook record mark outcome) :
    record.isLeased outlook.admitted = false ∨ outlook.own record := by
  cases owes with
  | concluded _ holds => exact .inr holds.own
  | abandoned _ decided =>
      exact .inl (RetryPolicy.unleased_of_decide decided (by simp))

/-- One change has been applied to a state that the batch knows; the result is
meant to replace that very state. Either no lease was running on it when it was
admitted, or the worker has written it itself. -/
structure Drafts (mandate : Mandate) (outlook : Outlook) (next : Redemption) (expected : Nat) :
    Prop where
  change : ∃ record mark now logged, mandate.Found outlook record ∧
    record.apply mark now logged = .ok next ∧ expected = record.version ∧
    (record.isLeased outlook.admitted = false ∨ outlook.own record)

theorem Admits.drafts {now : Nat} (admits : mandate.Admits outlook record leaseUntil attempt) :
    mandate.Drafts outlook (record.claim leaseUntil now) record.version :=
  ⟨record, .claim leaseUntil, now, now, admits.found, rfl, rfl, .inl admits.unleased⟩

theorem Owes.drafts {next : Redemption} {now logged : Nat}
    (owes : mandate.Owes outlook record mark outcome)
    (changed : record.apply mark now logged = .ok next) :
    mandate.Drafts outlook next next.version :=
  ⟨record, mark, now, logged, owes.found, changed, Redemption.version_of_apply changed,
    owes.unleased_or_own⟩

theorem Found.alive (found : mandate.Found outlook record) : record.status.isTerminal = false := by
  rcases found.status with same | same <;> rw [same] <;> cases mandate.phase <;> rfl

end Mandate

/-- The records of a stage are what the course of the batch makes them. -/
def Stage.Traced (mandate : Mandate) (outlook : Outlook) : Stage → Prop
  | .loading loaded status later =>
      (∀ record ∈ loaded, mandate.Found outlook record) ∧
      ∀ next ∈ status :: later, next = mandate.phase.waiting ∨ next = mandate.phase.retrying
  | .admitting record queue => ∀ other ∈ record :: queue, mandate.Found outlook other
  | .claiming record leaseUntil attempt queue =>
      mandate.Admits outlook record leaseUntil attempt ∧
      ∀ other ∈ queue, mandate.Found outlook other
  | .leasing claimed attempt queue =>
      (∃ record leaseUntil now, mandate.Admits outlook record leaseUntil attempt ∧
        claimed = record.claim leaseUntil now) ∧
      ∀ other ∈ queue, mandate.Found outlook other
  | .calling claimed attempt queue =>
      mandate.Holds outlook claimed attempt ∧ ∀ other ∈ queue, mandate.Found outlook other
  | .marking record mark outcome queue =>
      mandate.Owes outlook record mark outcome ∧ ∀ other ∈ queue, mandate.Found outlook other
  | .logging record mark _ outcome queue =>
      mandate.Owes outlook record mark outcome ∧ ∀ other ∈ queue, mandate.Found outlook other
  | .committing next outcome queue =>
      (∃ record mark now logged, mandate.Owes outlook record mark outcome ∧
        record.apply mark now logged = .ok next) ∧
      ∀ other ∈ queue, mandate.Found outlook other
  | .announcing _ _ queue => ∀ other ∈ queue, mandate.Found outlook other
  | .finished _ => True

namespace Batch

def Traced (batch : Batch) (outlook : Outlook) : Prop :=
  batch.stage.Traced batch.mandate outlook

variable {batch : Batch} {outlook wider : Outlook} {queue : List Redemption}

theorem traced_start (phase : Phase) (policy : RetryPolicy) (chain : Option String)
    (outlook : Outlook) : (start phase policy chain).Traced outlook := by
  refine ⟨fun record member => absurd member List.not_mem_nil, ?_⟩
  intro status member
  rcases List.mem_cons.mp member with waiting | member
  · exact .inl waiting
  · exact .inr (List.mem_singleton.mp member)

theorem Traced.widen (traced : batch.Traced outlook) (widens : outlook.Widens wider) :
    batch.Traced wider := by
  rcases batch with ⟨phase, policy, chain, summary, stage⟩
  have queued {queue : List Redemption}
      (found : ∀ other ∈ queue, Mandate.Found ⟨phase, policy, chain⟩ outlook other) :
      ∀ other ∈ queue, Mandate.Found ⟨phase, policy, chain⟩ wider other :=
    fun other member => (found other member).widen widens
  cases stage with
  | loading loaded status later => exact ⟨queued traced.1, traced.2⟩
  | admitting record queue => exact queued traced
  | claiming record leaseUntil attempt queue => exact ⟨traced.1.widen widens, queued traced.2⟩
  | leasing claimed attempt queue =>
      rcases traced with ⟨⟨record, leaseUntil, now, admits, same⟩, found⟩
      exact ⟨⟨record, leaseUntil, now, admits.widen widens, same⟩, queued found⟩
  | calling claimed attempt queue => exact ⟨traced.1.widen widens, queued traced.2⟩
  | marking record mark outcome queue => exact ⟨traced.1.widen widens, queued traced.2⟩
  | logging record mark now outcome queue => exact ⟨traced.1.widen widens, queued traced.2⟩
  | committing next outcome queue =>
      rcases traced with ⟨⟨record, mark, now, logged, owes, changed⟩, found⟩
      exact ⟨⟨record, mark, now, logged, owes.widen widens, changed⟩, queued found⟩
  | announcing milestone outcome queue => exact queued traced
  | finished result => trivial

/-! ## Going on with the answer -/

theorem traced_proceed (found : ∀ other ∈ queue, batch.mandate.Found outlook other) :
    (batch.proceed queue).Traced outlook := by
  cases queue with
  | nil => trivial
  | cons record queue => exact found

theorem traced_load {loaded : List Redemption} {later : List Status}
    (found : ∀ record ∈ loaded, batch.mandate.Found outlook record)
    (ofPhase : ∀ next ∈ later, next = batch.phase.waiting ∨ next = batch.phase.retrying) :
    (batch.load loaded later).Traced outlook := by
  cases later with
  | nil => exact traced_proceed found
  | cons status later => exact ⟨found, ofPhase⟩

theorem traced_afterFailedWrite (error : StoreError)
    (found : ∀ other ∈ queue, batch.mandate.Found outlook other) :
    (batch.afterFailedWrite queue error).Traced outlook := by
  cases error <;> exact traced_proceed found

theorem traced_afterDecision {record : Redemption}
    (found : ∀ other ∈ record :: queue, batch.mandate.Found outlook other) :
    (batch.afterDecision record outlook.admitted queue
      (batch.policy.decide batch.phase record outlook.admitted)).Traced outlook := by
  rcases List.forall_mem_cons.mp found with ⟨foundHere, foundLater⟩
  cases decision : batch.policy.decide batch.phase record outlook.admitted with
  | skip reason => exact traced_proceed foundLater
  | abandon error => exact ⟨.abandoned foundHere decision, foundLater⟩
  | attempt call limit leaseUntil => exact ⟨⟨foundHere, rfl, decision⟩, foundLater⟩
  | overflow => trivial

theorem holds_of_claim {mandate : Mandate} {record : Redemption} {leaseUntil now version : Nat}
    {attempt : Attempt} (admits : mandate.Admits outlook record leaseUntil attempt)
    (increased : version = record.version + 1)
    (known : outlook.known { record.claim leaseUntil now with version := version })
    (own : outlook.own { record.claim leaseUntil now with version := version }) :
    mandate.Holds outlook { record.claim leaseUntil now with version := version } attempt where
  found := ⟨known, admits.found.status, admits.found.chain⟩
  own := own
  claim := ⟨record, leaseUntil, now, admits, by rw [increased]⟩

theorem Traced.resume {request : Request} {answer : request.Answer} {next : Batch}
    (traced : batch.Traced outlook) (answered : batch.Answered request answer next)
    (granted : outlook.Grants batch.stage.isAdmitting request answer) : next.Traced outlook := by
  unfold Traced at traced
  cases answered with
  | read stage =>
      rw [stage] at traced
      rcases traced with ⟨foundLoaded, ofPhase⟩
      rcases List.forall_mem_cons.mp ofPhase with ⟨ofPhaseHere, ofPhaseLater⟩
      refine traced_load (List.forall_mem_append.mpr ⟨foundLoaded, ?_⟩) ofPhaseLater
      intro record member
      rcases granted record member with ⟨known, ofStatus, ofChain⟩
      exact ⟨known, ofStatus ▸ ofPhaseHere, ofChain⟩
  | unread stage => trivial
  | admitted stage =>
      rw [stage] at traced granted
      cases granted rfl
      exact traced_afterDecision traced
  | claimed stage =>
      rw [stage] at traced
      exact ⟨⟨_, _, _, traced.1, rfl⟩, traced.2⟩
  | leased stage =>
      rw [stage] at traced
      rcases traced with ⟨⟨record, leaseUntil, now, admits, rfl⟩, found⟩
      rcases granted with ⟨increased, known, own⟩
      exact ⟨holds_of_claim admits increased known own, found⟩
  | unleased stage =>
      rw [stage] at traced
      exact traced_afterFailedWrite _ traced.2
  | replied stage =>
      rw [stage] at traced
      exact ⟨.concluded _ traced.1, traced.2⟩
  | marked stage =>
      rw [stage] at traced
      exact traced
  | logged stage changed =>
      rw [stage] at traced
      exact ⟨⟨_, _, _, _, traced.1, changed⟩, traced.2⟩
  | forbidden stage _ =>
      rw [stage] at traced
      exact traced_proceed traced.2
  | @committed record outcome _ _ stage =>
      rw [stage] at traced
      dsimp only [afterCommit]
      cases milestone? record outcome with
      | some milestone => exact traced.2
      | none => exact traced_proceed traced.2
  | uncommitted stage =>
      rw [stage] at traced
      exact traced_afterFailedWrite _ traced.2
  | announced stage =>
      rw [stage] at traced
      exact traced_proceed traced

theorem Traced.update {next : Redemption} {expected : Nat} {successor : Batch}
    {answer : (Request.update next expected).Answer} (traced : batch.Traced outlook)
    (answered : batch.Answered (.update next expected) answer successor) :
    batch.mandate.Drafts outlook next expected := by
  unfold Traced at traced
  have leasing {attempt : Attempt} {queue : List Redemption}
      (stage : batch.stage = .leasing next attempt queue) :
      batch.mandate.Drafts outlook next next.version := by
    rw [stage] at traced
    rcases traced with ⟨⟨_, _, _, admits, rfl⟩, -⟩
    exact admits.drafts
  have committing {outcome : Outcome} {queue : List Redemption}
      (stage : batch.stage = .committing next outcome queue) :
      batch.mandate.Drafts outlook next next.version := by
    rw [stage] at traced
    rcases traced with ⟨⟨_, _, _, _, owes, changed⟩, -⟩
    exact owes.drafts changed
  cases answered with
  | leased stage => exact leasing stage
  | unleased stage => exact leasing stage
  | committed stage => exact committing stage
  | uncommitted stage => exact committing stage

end Batch

/-! ## Intakes -/

def Redemption.Begun (accepted : String → Event → Prop) (record : Redemption) : Prop :=
  ∃ chain event now logged, accepted chain event ∧
    record = Redemption.observed chain event now logged

theorem Redemption.Begun.widen {accepted wider : String → Event → Prop} {record : Redemption}
    (begun : record.Begun accepted)
    (widens : ∀ {chain event}, accepted chain event → wider chain event) : record.Begun wider := by
  rcases begun with ⟨chain, event, now, logged, acceptedHere, same⟩
  exact ⟨chain, event, now, logged, widens acceptedHere, same⟩

namespace Intake

def Traced (outlook : Outlook) : Intake → Prop
  | .stamping chain event => outlook.accepted chain event
  | .logging chain event _ => outlook.accepted chain event
  | .creating record => record.Begun outlook.accepted
  | .announcing record => record.Begun outlook.accepted ∧ outlook.own record
  | .finished _ => True

variable {intake next : Intake} {outlook wider : Outlook}

theorem traced_start {listener : Listener} {raw : RawEvent}
    (accepted : ∀ event, listener.request raw = .ok event → outlook.accepted raw.chain event) :
    (start listener raw).Traced outlook := by
  unfold start
  cases requested : listener.request raw with
  | ok event => exact accepted event requested
  | error reason => trivial

theorem Traced.widen (traced : intake.Traced outlook) (widens : outlook.Widens wider) :
    intake.Traced wider := by
  cases intake with
  | stamping chain event => exact widens.accepted traced
  | logging chain event now => exact widens.accepted traced
  | creating record => exact traced.widen widens.accepted
  | announcing record => exact ⟨traced.1.widen widens.accepted, widens.own traced.2⟩
  | finished result => trivial

theorem Traced.resume {request : Request} {answer : request.Answer}
    (traced : intake.Traced outlook) (answered : intake.Answered request answer next)
    (granted : outlook.Grants false request answer) : next.Traced outlook := by
  cases answered with
  | stamped => exact traced
  | logged => exact ⟨_, _, _, _, traced, rfl⟩
  | created => exact ⟨traced, granted.2⟩
  | duplicate => trivial
  | uncreated => trivial
  | announced => trivial

end Intake

/-! ## Jobs -/

namespace Job

def Traced (outlook : Outlook) : Job → Prop
  | .batch work => work.Traced outlook
  | .intake work => work.Traced outlook

variable {job next : Job} {outlook wider : Outlook} {request : Request} {answer : request.Answer}

theorem Traced.widen (traced : job.Traced outlook) (widens : outlook.Widens wider) :
    job.Traced wider := by
  cases job with
  | batch work => exact Batch.Traced.widen traced widens
  | intake work => exact Intake.Traced.widen traced widens

theorem Traced.resume (traced : job.Traced outlook) (answered : job.Answered request answer next)
    (granted : outlook.Grants job.isAdmitting request answer) : next.Traced outlook := by
  cases answered with
  | batch answered => exact Batch.Traced.resume traced answered granted
  | intake answered => exact Intake.Traced.resume traced answered granted

theorem Traced.update {record : Redemption} {expected : Nat}
    {answer : (Request.update record expected).Answer} (traced : job.Traced outlook)
    (answered : job.Answered (.update record expected) answer next) :
    ∃ mandate : Mandate, mandate.Drafts outlook record expected := by
  cases answered with
  | batch answered => exact ⟨_, Batch.Traced.update traced answered⟩
  | intake answered => cases answered

theorem Traced.create {record : Redemption} {answer : (Request.create record).Answer}
    (traced : job.Traced outlook) (answered : job.Answered (.create record) answer next) :
    record.Begun outlook.accepted := by
  cases answered with
  | batch answered => cases answered
  | intake answered => cases answered <;> exact traced

theorem Traced.readmit (traced : job.Traced outlook) (admitting : job.isAdmitting = true)
    (second : Nat) : job.Traced { outlook with admitted := second } := by
  cases job with
  | intake work => cases admitting
  | batch work =>
      rcases work with ⟨phase, policy, chain, summary, stage⟩
      cases stage <;> cases admitting
      intro other member
      exact { traced other member with }

end Job

end RedemptionRelay
