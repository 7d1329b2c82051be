import RedemptionRelay.Proofs.Fleet.Protection

/-! # Calls exclude each other

A lease runs for the limit of the call and the margin, rounded up to seconds,
from the second of the admission, rounded down. So a call that starts a second
before the margin is over, at the latest, ends while the lease still runs, and
there is at most one call for a redemption at any time.
-/

namespace RedemptionRelay

/-! ## Before the call -/

/-- How much longer than its call a batch holds a record. -/
def Job.margin : Job → Duration
  | .batch work => work.policy.leaseMargin
  | .intake _ => ⟨0⟩

def Job.limit : Job → Duration
  | .batch work => work.policy.timeout work.phase
  | .intake _ => ⟨0⟩

namespace Job

variable {job next : Job} {claimed : Redemption} {attempt : Attempt} {outlook : Outlook}

theorem perform_of_attempt? {request : Request} {answer : request.Answer}
    (attempts : job.attempt? = some (claimed, attempt))
    (answered : job.Answered request answer next) :
    ∃ call limit, request = .perform call limit := by
  rcases calling_of_attempt? attempts with ⟨work, queue, rfl, stage⟩
  cases answered with
  | batch answered =>
      cases answered with
      | replied => exact ⟨_, _, rfl⟩
      | read before | unread before | admitted before | claimed before | leased before
      | unleased before | marked before | logged before | forbidden before | committed before
      | uncommitted before | announced before => cases stage.symm.trans before

theorem edition?_of_attempt? (attempts : job.attempt? = some (claimed, attempt)) :
    job.edition? = some claimed.edition := by
  rcases calling_of_attempt? attempts with ⟨work, queue, rfl, stage⟩
  show work.stage.edition? = _
  rw [stage]
  rfl

theorem Traced.holds_of_attempt? (traced : job.Traced outlook)
    (attempts : job.attempt? = some (claimed, attempt)) :
    ∃ mandate : Mandate, job.margin = mandate.policy.leaseMargin ∧
      job.limit = mandate.policy.timeout mandate.phase ∧
      mandate.Holds outlook claimed attempt := by
  rcases calling_of_attempt? attempts with ⟨work, queue, rfl, stage⟩
  change work.stage.Traced work.mandate outlook at traced
  rw [stage] at traced
  exact ⟨work.mandate, rfl, rfl, traced.1⟩

end Job

theorem Mandate.Holds.lease {mandate : Mandate} {outlook : Outlook} {claimed : Redemption}
    {attempt : Attempt} (holds : mandate.Holds outlook claimed attempt) :
    claimed.leaseExpiresAt =
      some (outlook.admitted + mandate.policy.holdSeconds attempt.limit) := by
  rcases holds.claim with ⟨record, leaseUntil, now, admits, rfl⟩
  have attempts := RetryPolicy.attempts_of_decide admits.decided
  rw [← admits.started, ← attempts.isLease]
  rfl

theorem Mandate.Holds.limit {mandate : Mandate} {outlook : Outlook} {claimed : Redemption}
    {attempt : Attempt} (holds : mandate.Holds outlook claimed attempt) :
    attempt.limit = mandate.policy.timeout mandate.phase := by
  rcases holds.claim with ⟨record, leaseUntil, now, admits, -⟩
  exact (RetryPolicy.attempts_of_decide admits.decided).isLimit

theorem Mandate.Holds.leased {mandate : Mandate} {outlook : Outlook} {claimed : Redemption}
    {attempt : Attempt} (holds : mandate.Holds outlook claimed attempt) {admittedAt clock : Nat}
    (admitted : outlook.admitted = admittedAt / Duration.nanosecondsPerSecond)
    (inTime : clock + Duration.nanosecondsPerSecond ≤
      admittedAt + mandate.policy.leaseMargin.nanoseconds + attempt.limit.nanoseconds) :
    claimed.isLeased (clock / Duration.nanosecondsPerSecond) = true := by
  have held := Duration.le_ceilSeconds
    ⟨attempt.limit.nanoseconds + mandate.policy.leaseMargin.nanoseconds⟩
  unfold Redemption.isLeased
  rw [holds.lease, admitted]
  refine decide_eq_true ?_
  unfold RetryPolicy.holdSeconds
  generalize Duration.ceilSeconds _ = hold at held ⊢
  unfold Duration.nanosecondsPerSecond at *
  dsimp only at held
  omega

namespace Fleet

variable {σ : Type} {fleet : Fleet σ} {index : Nat} {member after : Member} {store : σ}
  {deeds : List Deed} {action : Action}

/-- A call starts a second before the margin is over, at the latest. -/
def Prompt (fleet : Fleet σ) : Move → Prop
  | .act index .call => ∀ member ∈ fleet.members[index]?,
      fleet.clock + Duration.nanosecondsPerSecond ≤
        member.admittedAt + member.job.margin.nanoseconds
  | _ => True

/-- Every call that is under way started in time and is within its limit. -/
structure Punctual (fleet : Fleet σ) : Prop where
  calling : ∀ (index : Nat) (member : Member) start, fleet.members[index]? = some member →
    member.calledAt = some start →
      ∃ claimed attempt, member.job.attempt? = some (claimed, attempt) ∧
        start + Duration.nanosecondsPerSecond ≤
          member.admittedAt + member.job.margin.nanoseconds ∧
        fleet.clock ≤ start + attempt.limit.nanoseconds

theorem punctual_initial (store : σ) (clock : Nat) : (initial store clock).Punctual :=
  ⟨fun _ _ _ impossible => nomatch impossible⟩

theorem Punctual.joined (punctual : fleet.Punctual) (job : Job) : (fleet.joined job).Punctual := by
  constructor
  intro index member start found calling
  rcases getElem?_joined found with rfl | before
  · cases calling
  · exact punctual.calling index member start before calling

variable [Store σ]

namespace Punctual

theorem replaced (punctual : fleet.Punctual) (there : fleet.members[index]? = some member)
    (acts : fleet.Acts member action after store deeds)
    (prompt : fleet.Prompt (.act index action)) :
    (fleet.replaced index after store deeds).Punctual := by
  constructor
  intro other member' start found calling
  rcases getElem?_replaced there found with ⟨rfl, rfl⟩ | ⟨-, before⟩
  · cases acts with
    | proceeded _ answered _ serves =>
        rw [Member.calledAt_goOn] at calling
        rcases punctual.calling _ _ _ there calling with ⟨_, _, attempts, _⟩
        rcases Job.perform_of_attempt? attempts answered with ⟨_, _, rfl⟩
        cases serves
    | failed _ answered fails =>
        rcases punctual.calling _ _ _ there calling with ⟨_, _, attempts, _⟩
        rcases Job.perform_of_attempt? attempts answered with ⟨_, _, rfl⟩
        cases fails
    | called _ _ attempts =>
        cases calling
        exact ⟨_, _, attempts, prompt member there, Nat.le_add_right _ _⟩
    | heard => cases calling
    | unheard => cases calling
    | halted => exact punctual.calling other member start there calling
  · exact punctual.calling other member' start before calling

theorem step {next : Fleet σ} {move : Move} (punctual : fleet.Punctual)
    (prompt : fleet.Prompt move) (step : fleet.step? move = some next) : next.Punctual := by
  cases steps_of_step? step with
  | passed inTime =>
      constructor
      intro index member start found calling
      rcases punctual.calling index member start found calling with
        ⟨claimed, attempt, attempts, started, -⟩
      have waits := inTime member (List.mem_of_getElem? found)
      simp only [Member.mayWait, calling, attempts, decide_eq_true_eq] at waits
      exact ⟨claimed, attempt, attempts, started, waits⟩
  | @batchLaunched phase policy chain => exact punctual.joined (.batch _)
  | @intakeLaunched listener raw =>
      have toldPunctual : (fleet.told listener raw).Punctual := { punctual with }
      exact toldPunctual.joined (.intake _)
  | acted there acts => exact punctual.replaced there acts prompt

end Punctual

/-! ## During the call -/

section Calling

variable [LawfulStore σ] {origin : String → Option Redemption} {id : String}

theorem Coherent.leased_of_attempt? (coherent : fleet.Coherent origin)
    (there : fleet.members[index]? = some member) {claimed : Redemption} {attempt : Attempt}
    (attempts : member.job.attempt? = some (claimed, attempt))
    (inTime : fleet.clock + Duration.nanosecondsPerSecond ≤
      member.admittedAt + member.job.margin.nanoseconds + attempt.limit.nanoseconds) :
    fleet.Wrote index claimed ∧ claimed.status.isTerminal = false ∧
      claimed.isLeased fleet.seconds = true := by
  rcases (coherent.traced _ _ there).holds_of_attempt? attempts with
    ⟨mandate, margin, -, holds⟩
  rw [margin] at inTime
  exact ⟨holds.own, holds.found.alive, holds.leased rfl inTime⟩

theorem Punctual.current_of_isCalling (punctual : fleet.Punctual)
    (coherent : fleet.Coherent origin) (protects : fleet.Protected)
    (calls : fleet.IsCalling index id) :
    ∃ claimed, fleet.Wrote index claimed ∧
      LawfulStore.record? fleet.store id = some claimed := by
  rcases calls with ⟨member, claimed, attempt, there, calling, attempts, rfl⟩
  rcases Option.isSome_iff_exists.mp calling with ⟨start, calledAt⟩
  rcases punctual.calling index member start there calledAt with ⟨_, _, attempts', started, inLimit⟩
  cases attempts.symm.trans attempts'
  rcases coherent.leased_of_attempt? there attempts (by omega) with ⟨wrote, -, leased⟩
  have atHand := Job.edition?_of_attempt? attempts
  exact ⟨claimed, wrote, protects.held index member claimed there wrote atHand leased⟩

end Calling

theorem Run.punctual {clock : Nat} (run : Run Prompt (initial store clock) fleet) :
    fleet.Punctual := by
  induction run with
  | rest => exact punctual_initial store clock
  | move move _ prompt step punctual => exact punctual.step prompt step

instance (fleet : Fleet σ) : (move : Move) → Decidable (fleet.Prompt move)
  | .act index .call =>
      inferInstanceAs (Decidable (∀ member ∈ fleet.members[index]?, _ ≤ _))
  | .act _ .proceed | .act _ (.fail _) | .act _ (.hear _) | .act _ .halt => .isTrue trivial
  | .pass _ | .launchBatch _ _ _ | .launchIntake _ _ => .isTrue trivial

/-- At any time there is at most one call for a redemption. -/
theorem calls_exclusive [LawfulStore σ] {clock : Nat} (sound : LawfulStore.Sound store)
    (run : Run Prompt (initial store clock) fleet) {left right : Nat} {id : String}
    (leftCalls : fleet.IsCalling left id) (rightCalls : fleet.IsCalling right id) :
    left = right := by
  have coherent := run.coherent sound
  have protects := run.protects sound
  rcases run.punctual.current_of_isCalling coherent protects leftCalls with
    ⟨claimed, leftWrote, current⟩
  rcases run.punctual.current_of_isCalling coherent protects rightCalls with
    ⟨claimed', rightWrote, current'⟩
  cases current.symm.trans current'
  exact coherent.eq_of_wrote leftWrote rightWrote

/-- With the least margin, a second batch at the very end of a call. -/
theorem calls_exclusive_at_limit :
    ∃ fleet : Fleet MemoryStore, fleet.clock = 30000000000 ∧ fleet.IsCalling 1 "0xa1" ∧
      ∀ other, fleet.IsCalling other "0xa1" → other = 1 := by
  let policy : RetryPolicy := { leaseMargin := .ofSeconds 1 }
  let moves : List Move :=
    Sample.arrival ++ [.launchBatch .attestation policy none] ++ Sample.claim 1 ++
      [.act 1 .call, .pass 30000000000, .launchBatch .attestation policy none,
        .act 2 .proceed, .act 2 .proceed, .act 2 .proceed]
  have happened : ((initial ({} : MemoryStore) 0).follow? Prompt moves).map (fun fleet =>
      (fleet.clock, fleet.members[1]?.bind fun member =>
        member.calledAt.bind fun _ => member.job.attempt?.map (·.1.id))) =
        some (30000000000, some "0xa1") := by
    decide +kernel
  rcases Option.map_eq_some_iff.mp happened with ⟨fleet, followed, seen⟩
  rcases Prod.mk.inj seen with ⟨clock, calling⟩
  have run : Run Prompt (initial ({} : MemoryStore) 0) fleet := .of_follow? .rest followed
  have calls : fleet.IsCalling 1 "0xa1" := by
    rcases Option.bind_eq_some_iff.mp calling with ⟨member, there, calling⟩
    rcases Option.bind_eq_some_iff.mp calling with ⟨start, calledAt, attempts⟩
    rcases Option.map_eq_some_iff.mp attempts with ⟨⟨claimed, attempt⟩, attempts, sameId⟩
    exact ⟨member, claimed, attempt, there, by simp [calledAt], attempts, sameId⟩
  exact ⟨fleet, clock, calls, fun _ otherCalls => calls_exclusive trivial run otherCalls calls⟩

end Fleet

end RedemptionRelay
