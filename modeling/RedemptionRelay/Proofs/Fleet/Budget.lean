import RedemptionRelay.Proofs.Fleet.Consistency
import RedemptionRelay.Proofs.Fleet.Diligence
import RedemptionRelay.Proofs.Fleet.Integrity
import RedemptionRelay.Proofs.Redemption.Allowance

/-! # What is stored keeps to the budget

Under one common policy every write of a batch is one that the policy allows for
the state it replaces: the batch has decided on that very state, or on the one
it has claimed since.
-/

namespace RedemptionRelay

namespace Mandate

variable {mandate : Mandate} {outlook : Outlook} {record claimed : Redemption} {leaseUntil : Nat}
  {attempt : Attempt} {mark : Mark} {outcome : Outcome}

theorem Found.reads (found : mandate.Found outlook record) : mandate.phase.Reads record :=
  found.status

theorem Admits.retriesLeft (admits : mandate.Admits outlook record leaseUntil attempt)
    (consistent : record.Consistent) : record.retryCount ≤ mandate.policy.maxRetries :=
  RetryPolicy.retryCount_le_of_reads consistent admits.found.reads
    (RetryPolicy.attempts_of_decide admits.decided).retriesLeft

theorem Admits.spends (admits : mandate.Admits outlook record leaseUntil attempt)
    (consistent : record.Consistent) (now : Nat) :
    mandate.policy.Spends record
      { record.claim leaseUntil now with version := record.version + 1 } := by
  have applied : record.apply (.claim leaseUntil) now now = .ok (record.claim leaseUntil now) := rfl
  refine .within admits.found.reads (admits.retriesLeft consistent) ?_ applied rfl
  exact nofun

theorem Holds.retriesLeft (holds : mandate.Holds outlook claimed attempt)
    (consistent : claimed.Consistent) : claimed.retryCount ≤ mandate.policy.maxRetries := by
  rcases holds.claim with ⟨record, leaseUntil, now, admits, same⟩
  refine RetryPolicy.retryCount_le_of_reads consistent holds.found.reads ?_
  rw [same]
  exact (RetryPolicy.attempts_of_decide admits.decided).retriesLeft

theorem Holds.isCall (holds : mandate.Holds outlook claimed attempt) :
    RetryPolicy.call? mandate.phase claimed = some attempt.call := by
  rcases holds.claim with ⟨record, leaseUntil, now, admits, rfl⟩
  exact (RetryPolicy.attempts_of_decide admits.decided).isCall

theorem Owes.spends {now logged : Nat} {changed : Redemption}
    (owes : mandate.Owes outlook record mark outcome) (consistent : record.Consistent)
    (counted : record.retryCount ≤ mandate.policy.maxRetries + 1)
    (applied : record.apply mark now logged = .ok changed) :
    mandate.policy.Spends record { changed with version := record.version + 1 } := by
  cases owes with
  | abandoned found decided =>
      rcases RetryPolicy.exhausted_or_missing_of_decide decided with
        ⟨exhausted, rfl⟩ | ⟨retriesLeft, rfl⟩
      · refine .beyond found.reads (Nat.le_antisymm counted ?_) applied rfl
        unfold RetryPolicy.isExhausted at exhausted
        exact of_decide_eq_true (Bool.and_eq_true_iff.mp exhausted).2
      · refine .within found.reads
          (RetryPolicy.retryCount_le_of_reads consistent found.reads retriesLeft) ?_ applied rfl
        exact fun equal => exhaustedMessage_ne_missingPayloadMessage (Mark.failed.inj equal).symm
  | concluded reply holds =>
      exact .within holds.found.reads (holds.retriesLeft consistent)
        (RetryPolicy.conclude_ne_exhausted holds.isCall) applied rfl

end Mandate

/-- What a batch knows of keeps to its policy so far. -/
structure Outlook.Keeps (outlook : Outlook) (policy : RetryPolicy) : Prop where
  consistent : ∀ record, outlook.known record → record.Consistent
  counted : ∀ record, outlook.known record → record.retryCount ≤ policy.maxRetries + 1

theorem Batch.Traced.spends {batch successor : Batch} {outlook : Outlook} {next : Redemption}
    {expected : Nat} {answer : (Request.update next expected).Answer}
    (traced : batch.Traced outlook) (keeps : outlook.Keeps batch.policy)
    (answered : batch.Answered (.update next expected) answer successor) :
    ∃ base, outlook.known base ∧ base.id = next.id ∧ base.version = expected ∧
      batch.policy.Spends base { next with version := expected + 1 } := by
  unfold Traced at traced
  have leasing {attempt : Attempt} {queue : List Redemption}
      (stage : batch.stage = .leasing next attempt queue) :
      ∃ base, outlook.known base ∧ base.id = next.id ∧ base.version = next.version ∧
        batch.policy.Spends base { next with version := next.version + 1 } := by
    rw [stage] at traced
    rcases traced with ⟨⟨base, leaseUntil, now, admits, rfl⟩, -⟩
    have known := admits.found.known
    exact ⟨base, known, rfl, rfl, admits.spends (keeps.consistent base known) now⟩
  have committing {outcome : Outcome} {queue : List Redemption}
      (stage : batch.stage = .committing next outcome queue) :
      ∃ base, outlook.known base ∧ base.id = next.id ∧ base.version = next.version ∧
        batch.policy.Spends base { next with version := next.version + 1 } := by
    rw [stage] at traced
    rcases traced with ⟨⟨base, mark, now, logged, owes, applied⟩, -⟩
    have known := owes.found.known
    have sameVersion := Redemption.version_of_apply applied
    have spends := owes.spends (keeps.consistent base known) (keeps.counted base known) applied
    rw [← sameVersion] at spends
    exact ⟨base, known, (Redemption.sameRequest_of_apply applied).id.symm, sameVersion.symm, spends⟩
  cases answered with
  | leased stage | unleased stage => exact leasing stage
  | committed stage | uncommitted stage => exact committing stage

/-! ## One policy -/

namespace Job

/-- A batch follows the policy; an intake needs none. -/
def Follows (policy : RetryPolicy) : Job → Prop
  | .batch work => work.policy = policy
  | .intake _ => True

variable {policy : RetryPolicy} {job next : Job}

theorem Traced.spends {outlook : Outlook} {record : Redemption} {expected : Nat}
    {answer : (Request.update record expected).Answer} (traced : job.Traced outlook)
    (follows : job.Follows policy) (keeps : outlook.Keeps policy)
    (answered : job.Answered (.update record expected) answer next) :
    ∃ base, outlook.known base ∧ base.id = record.id ∧ base.version = expected ∧
      policy.Spends base { record with version := expected + 1 } := by
  cases answered with
  | intake answered => cases answered
  | batch answered =>
      cases follows
      exact Batch.Traced.spends traced keeps answered

theorem Follows.of_answered {request : Request} {answer : request.Answer}
    (follows : job.Follows policy) (answered : job.Answered request answer next) :
    next.Follows policy := by
  cases answered with
  | intake => trivial
  | @batch work next request answer answered =>
      have samePolicy : next.mandate.policy = work.mandate.policy :=
        congrArg Mandate.policy (Batch.mandate_of_answered answered)
      exact samePolicy.trans follows

end Job

namespace Fleet

variable {σ : Type}

def Uniform (policy : RetryPolicy) (_ : Fleet σ) : Move → Prop
  | .launchBatch _ launched _ => launched = policy
  | _ => True

instance (policy : RetryPolicy) (fleet : Fleet σ) : (move : Move) →
    Decidable (fleet.Uniform policy move)
  | .launchBatch _ launched _ => inferInstanceAs (Decidable (launched = policy))
  | .pass _ | .launchIntake _ _ | .act _ _ => .isTrue trivial

/-- The workers follow the policy, and so do the states that have been stored. -/
structure Budgeted (policy : RetryPolicy) (fleet : Fleet σ) : Prop where
  follows : ∀ (index : Nat) (member : Member), fleet.members[index]? = some member →
    member.job.Follows policy
  linked : ∀ id, (fleet.versions id).IsChain policy.Spends

theorem budgeted_initial (policy : RetryPolicy) (store : σ) (clock : Nat) :
    (initial store clock).Budgeted policy where
  follows _ _ impossible := nomatch impossible
  linked _ := List.isChain_nil

variable [Store σ] [LawfulStore σ] {origin : String → Option Redemption} {policy : RetryPolicy}
  {fleet : Fleet σ} {index : Nat} {member after : Member} {store : σ} {deeds : List Deed}
  {action : Action}

omit [Store σ] [LawfulStore σ] in
theorem Budgeted.retryCount_le (budgeted : fleet.Budgeted policy)
    (begun : ∀ id, ∀ first ∈ (fleet.versions id).head?, first.Begun fleet.Accepted)
    {id : String} {record : Redemption} (written : record ∈ fleet.versions id) :
    record.retryCount ≤ policy.maxRetries + 1 := by
  refine (budgeted.linked id).induction _ _ (fun _ _ spends _ => spends.retryCount_le) ?_ _ written
  intro nonempty
  rcases begun id _ (Option.mem_def.mpr (List.head?_eq_some_head nonempty)) with
    ⟨chain, event, now, logged, -, same⟩
  rw [same]
  exact Nat.zero_le _

section Coherent

variable (budgeted : fleet.Budgeted policy) (coherent : fleet.Coherent origin)
  (fresh : ∀ id, origin id = none)
include budgeted coherent fresh

theorem Budgeted.keeps : (fleet.outlook origin index member).Keeps policy where
  consistent record known := by
    refine coherent.consistent_of_known (fun id record before => ?_) known
    rw [fresh] at before
    cases before
  counted record known := by
    have written : record ∈ fleet.versions record.id := trail_of_fresh fresh record.id ▸ known
    exact budgeted.retryCount_le (fun id => coherent.begun id (fresh id)) written

theorem Budgeted.written (there : fleet.members[index]? = some member)
    (acts : fleet.Acts member action after store deeds) {record : Redemption}
    (written : .stored record ∈ deeds) :
    deeds = [.stored record] ∧ (fleet.versions record.id = [] ∨
      ∃ base, (fleet.versions record.id).getLast? = some base ∧ policy.Spends base record) := by
  have stored (id : String) :
      LawfulStore.record? fleet.store id = (fleet.versions id).getLast? :=
    trail_of_fresh fresh id ▸ coherent.current id
  cases acts with
  | @proceeded request answer next store deeds _ answered fits serves =>
      cases coherent.served_of_answer? there answered fits serves with
      | created begun vacant lands =>
          cases List.mem_singleton.mp written
          rw [stored] at vacant
          exact ⟨rfl, .inl (List.getLast?_eq_none_iff.mp vacant)⟩
      | @updated current next expected store isBase precedes isCurrent entitled lands =>
          cases List.mem_singleton.mp written
          rcases (coherent.traced index member there).spends (budgeted.follows index member there)
            (budgeted.keeps coherent fresh) answered with
            ⟨base, known, sameId, sameVersion, spends⟩
          have currentId : current.id = base.id := precedes.id.symm.trans sameId.symm
          have currentKnown := coherent.known_of_current isCurrent
          rw [currentId] at currentKnown
          cases coherent.eq_of_version currentKnown known (isBase.trans sameVersion.symm)
          refine ⟨rfl, .inr ⟨current, ?_, spends⟩⟩
          rw [← stored]
          exact sameId ▸ isCurrent
      | listed | stamped | taken | stale | announced => simp at written
  | failed _ _ fails => exact absurd written (quiet_of_failure? fails record)
  | called | heard | unheard | halted => simp at written

theorem Budgeted.linked_replaced (there : fleet.members[index]? = some member)
    (acts : fleet.Acts member action after store deeds) (id : String) :
    ((fleet.replaced index after store deeds).versions id).IsChain policy.Spends := by
  by_cases writes : ∃ record, .stored record ∈ deeds
  · rcases writes with ⟨record, written⟩
    rcases budgeted.written coherent fresh there acts written with ⟨rfl, follows⟩
    rw [versions_replaced_stored]
    split
    · next sameId =>
        rw [sameId] at follows
        refine (budgeted.linked id).append (List.isChain_singleton _) ?_
        rintro last isLast _ ⟨⟩
        rcases follows with none | ⟨base, isBase, spends⟩
        · rw [none] at isLast
          cases isLast
        · cases isBase.symm.trans isLast
          exact spends
    · exact budgeted.linked id
  · rw [versions_replaced_quiet fun record written => writes ⟨record, written⟩]
    exact budgeted.linked id

theorem Budgeted.step {next : Fleet σ} {move : Move} (uniform : fleet.Uniform policy move)
    (step : fleet.step? move = some next) : next.Budgeted policy := by
  cases steps_of_step? step with
  | passed => exact ⟨budgeted.follows, budgeted.linked⟩
  | batchLaunched =>
      refine ⟨fun index member found => ?_, budgeted.linked⟩
      rcases getElem?_joined found with rfl | before
      · exact uniform
      · exact budgeted.follows index member before
  | intakeLaunched =>
      refine ⟨fun index member found => ?_, budgeted.linked⟩
      rcases getElem?_joined found with rfl | before
      · trivial
      · exact budgeted.follows index member before
  | acted there acts =>
      refine ⟨fun other member' found => ?_, budgeted.linked_replaced coherent fresh there acts⟩
      rcases getElem?_replaced there found with ⟨rfl, rfl⟩ | ⟨-, before⟩
      · have follows := budgeted.follows other _ there
        cases acts with
        | proceeded _ answered =>
            rw [Member.job_goOn]
            exact follows.of_answered answered
        | failed _ answered | heard _ _ _ answered => exact follows.of_answered answered
        | called | unheard | halted => exact follows
      · exact budgeted.follows other member' before

end Coherent

theorem Run.budgeted {clock : Nat} (sound : LawfulStore.Sound store)
    (vacant : ∀ id, LawfulStore.record? store id = none)
    (run : Run (Uniform policy) (initial store clock) fleet) : fleet.Budgeted policy := by
  induction run with
  | rest => exact budgeted_initial policy store clock
  | move move run uniform step budgeted =>
      exact budgeted.step (run.coherent sound) vacant uniform step

end Fleet

end RedemptionRelay
