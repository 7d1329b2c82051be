import RedemptionRelay.Proofs.Fleet.Exclusion

/-! # Workers who keep time

Where no worker stops, no store operation fails by itself, and the time that a
worker takes for a record, its call apart, stays a second below the margin, a
worker holds the lease on its record until the commit.
-/

namespace RedemptionRelay

def Stage.awaitsReply : Stage → Bool
  | .claiming _ _ _ _ | .leasing _ _ _ | .calling _ _ _ => true
  | _ => false

theorem Stage.isBusy_of_awaitsReply {stage : Stage} (awaits : stage.awaitsReply = true) :
    stage.isBusy = true := by
  cases stage <;> first | rfl | cases awaits

namespace Batch

variable {batch next : Batch} {request : Request} {answer : request.Answer}

theorem isBusy_of_answered (answered : batch.Answered request answer next)
    (busy : next.stage.isBusy = true) (notAdmitting : batch.stage.isAdmitting = false) :
    batch.stage.isBusy = true := by
  rcases rests_or_works answered with rests | ⟨stage, works, rfl⟩
  · exact absurd busy (by simp [rests.free])
  · cases works with
    | abandoned stage | admitted stage => rw [stage] at notAdmitting; cases notAdmitting
    | claimed stage | leased stage | replied stage | marked stage | logged stage =>
        rw [stage]
        rfl

theorem awaitsReply_of_answered (answered : batch.Answered request answer next)
    (awaits : next.stage.awaitsReply = true) (notAdmitting : batch.stage.isAdmitting = false) :
    batch.stage.awaitsReply = true := by
  rcases rests_or_works answered with rests | ⟨stage, works, rfl⟩
  · exact absurd (Stage.isBusy_of_awaitsReply awaits) (by simp [rests.free])
  · cases works with
    | abandoned stage | admitted stage => rw [stage] at notAdmitting; cases notAdmitting
    | claimed stage | leased stage => rw [stage]; rfl
    | replied | marked | logged => cases awaits

theorem mandate_of_answered (answered : batch.Answered request answer next) :
    next.mandate = batch.mandate := by
  rcases rests_or_works answered with rests | ⟨stage, -, rfl⟩
  · unfold mandate
    rw [rests.phase, rests.policy, rests.chain]
  · rfl

theorem awaitsReply_of_perform {call : Call} {limit : Duration}
    {reply : (Request.perform call limit).Answer}
    (answered : batch.Answered (.perform call limit) reply next) :
    next.stage.awaitsReply = false := by
  cases answered
  rfl

end Batch

namespace Job

def isBusy : Job → Bool
  | .batch work => work.stage.isBusy
  | .intake _ => false

def awaitsReply : Job → Bool
  | .batch work => work.stage.awaitsReply
  | .intake _ => false

variable {job next : Job} {request : Request} {answer : request.Answer} {claimed : Redemption}
  {attempt : Attempt} {outlook : Outlook}

theorem isBusy_of_answered (answered : job.Answered request answer next)
    (busy : next.isBusy = true) (notAdmitting : job.isAdmitting = false) : job.isBusy = true := by
  cases answered with
  | batch answered => exact Batch.isBusy_of_answered answered busy notAdmitting
  | intake => cases busy

theorem awaitsReply_of_answered (answered : job.Answered request answer next)
    (awaits : next.awaitsReply = true) (notAdmitting : job.isAdmitting = false) :
    job.awaitsReply = true := by
  cases answered with
  | batch answered => exact Batch.awaitsReply_of_answered answered awaits notAdmitting
  | intake => cases awaits

theorem awaitsReply_of_perform {call : Call} {limit : Duration}
    {reply : (Request.perform call limit).Answer}
    (answered : job.Answered (.perform call limit) reply next) : next.awaitsReply = false := by
  cases answered with
  | batch answered => exact Batch.awaitsReply_of_perform answered
  | intake => rfl

theorem margin_of_answered (answered : job.Answered request answer next) :
    next.margin = job.margin := by
  cases answered with
  | batch answered =>
      exact congrArg (·.policy.leaseMargin) (Batch.mandate_of_answered answered)
  | intake => rfl

theorem limit_of_answered (answered : job.Answered request answer next) :
    next.limit = job.limit := by
  cases answered with
  | batch answered =>
      exact congrArg (fun mandate => mandate.policy.timeout mandate.phase)
        (Batch.mandate_of_answered answered)
  | intake => rfl

theorem awaitsReply_of_attempt? (attempts : job.attempt? = some (claimed, attempt)) :
    job.awaitsReply = true := by
  rcases calling_of_attempt? attempts with ⟨work, queue, rfl, stage⟩
  show work.stage.awaitsReply = true
  rw [stage]
  rfl

theorem isBusy_of_awaitsReply (awaits : job.awaitsReply = true) : job.isBusy = true := by
  cases job with
  | intake work => cases awaits
  | batch work => exact Stage.isBusy_of_awaitsReply awaits

theorem Traced.limit_of_attempt? (traced : job.Traced outlook)
    (attempts : job.attempt? = some (claimed, attempt)) : attempt.limit = job.limit := by
  rcases traced.holds_of_attempt? attempts with ⟨mandate, -, limit, holds⟩
  exact holds.limit.trans limit.symm

end Job

/-! ## Keeping time -/

/-- A batch has a second at least for itself. -/
def Job.HasTime : Job → Prop
  | .batch work => Duration.nanosecondsPerSecond ≤ work.policy.leaseMargin.nanoseconds
  | .intake _ => True

namespace Job.HasTime

variable {job next : Job} {request : Request} {answer : request.Answer}

theorem of_answered (hasTime : job.HasTime) (answered : job.Answered request answer next) :
    next.HasTime := by
  cases answered with
  | @batch work next request answer answered =>
      show _ ≤ next.mandate.policy.leaseMargin.nanoseconds
      rw [Batch.mandate_of_answered answered]
      exact hasTime
  | intake => trivial

theorem le_margin (hasTime : job.HasTime) (busy : job.isBusy = true) :
    Duration.nanosecondsPerSecond ≤ job.margin.nanoseconds := by
  cases job with
  | batch work => exact hasTime
  | intake work => cases busy

end Job.HasTime

/-- Up to this time a worker has taken a second less than the margin, its call
apart. -/
def Member.InTime (member : Member) (time : Nat) : Prop :=
  member.job.isBusy = true → member.calledAt = none →
    time + Duration.nanosecondsPerSecond ≤
      member.admittedAt + member.spent + member.job.margin.nanoseconds

instance (member : Member) (time : Nat) : Decidable (member.InTime time) :=
  inferInstanceAs (Decidable (_ → _ → _ ≤ _))

structure Member.Diligent (member : Member) (clock : Nat) : Prop where
  running : member.isHalted = false
  hasTime : member.job.HasTime
  spent_le : member.spent ≤ member.job.limit.nanoseconds
  spent_eq : member.job.awaitsReply = true → member.spent = 0
  inTime : member.InTime clock

namespace Fleet

variable {σ : Type} [Store σ] {fleet : Fleet σ} {index : Nat} {member after : Member} {store : σ}
  {deeds : List Deed} {action : Action}

/-- No worker stops, no store operation fails by itself, every margin is a
second at least, and time passes only as long as every worker is in time. -/
def Steady (fleet : Fleet σ) : Move → Prop
  | .pass nanoseconds => ∀ member ∈ fleet.members, member.InTime (fleet.clock + nanoseconds)
  | .launchBatch _ policy _ =>
      Duration.nanosecondsPerSecond ≤ policy.leaseMargin.nanoseconds
  | .act _ (.fail _) => False
  | .act _ .halt => False
  | _ => True

instance (fleet : Fleet σ) : (move : Move) → Decidable (fleet.Steady move)
  | .pass nanoseconds =>
      inferInstanceAs (Decidable (∀ member ∈ fleet.members,
        member.InTime (fleet.clock + nanoseconds)))
  | .launchBatch _ _ _ => inferInstanceAs (Decidable (_ ≤ _))
  | .act _ (.fail _) | .act _ .halt => .isFalse id
  | .act _ .proceed | .act _ .call | .act _ (.hear _) | .launchIntake _ _ => .isTrue trivial

def Diligent (fleet : Fleet σ) : Prop :=
  ∀ (index : Nat) (member : Member), fleet.members[index]? = some member →
    member.Diligent fleet.clock

theorem Diligent.prompt (diligent : fleet.Diligent) (there : fleet.members[index]? = some member)
    (acts : fleet.Acts member action after store deeds) : fleet.Prompt (.act index action) := by
  cases acts with
  | called _ idle attempts =>
      rintro member' there'
      cases there.symm.trans there'
      have keepsTime := diligent index member there
      have awaits := Job.awaitsReply_of_attempt? attempts
      have inTime := keepsTime.inTime (Job.isBusy_of_awaitsReply awaits) idle
      rw [keepsTime.spent_eq awaits] at inTime
      exact inTime
  | proceeded | failed | heard | unheard | halted => trivial

variable [LawfulStore σ] {origin : String → Option Redemption}

theorem Diligent.of_acts (diligent : fleet.Diligent) (punctual : fleet.Punctual)
    (coherent : fleet.Coherent origin) (there : fleet.members[index]? = some member)
    (steady : fleet.Steady (.act index action))
    (acts : fleet.Acts member action after store deeds) : after.Diligent fleet.clock := by
  have keepsTime := diligent index member there
  cases acts with
  | failed | halted => cases steady
  | unheard halted => exact absurd (halted.symm.trans keepsTime.running) (by simp)
  | called => exact { keepsTime with inTime := fun _ calling => nomatch calling }
  | heard _ calling attempts answered =>
      rcases punctual.calling index member _ there calling with ⟨_, _, attempts', started, inLimit⟩
      cases attempts.symm.trans attempts'
      rw [(coherent.traced index member there).limit_of_attempt? attempts] at inLimit
      refine ⟨keepsTime.running, keepsTime.hasTime.of_answered answered, ?_, ?_, ?_⟩
      · show fleet.clock - _ ≤ _
        rw [Job.limit_of_answered answered]
        omega
      · intro awaits
        exact absurd (awaits.symm.trans (Job.awaitsReply_of_perform answered)) (by simp)
      · intro _ _
        show _ ≤ member.admittedAt + (fleet.clock - _) + _
        rw [Job.margin_of_answered answered]
        omega
  | @proceeded request answer next store deeds running answered =>
      have hasTime := keepsTime.hasTime.of_answered answered
      unfold Member.goOn
      split
      · refine ⟨running, hasTime, Nat.zero_le _, fun _ => rfl, ?_⟩
        intro busy _
        exact Nat.add_le_add_left (hasTime.le_margin busy) fleet.clock
      · next notAdmitting =>
          have notAdmitting := Bool.eq_false_iff.mpr notAdmitting
          refine ⟨running, hasTime, ?_, ?_, ?_⟩
          · rw [Job.limit_of_answered answered]
            exact keepsTime.spent_le
          · intro awaits
            exact keepsTime.spent_eq (Job.awaitsReply_of_answered answered awaits notAdmitting)
          · intro busy idle
            rw [Job.margin_of_answered answered]
            exact keepsTime.inTime (Job.isBusy_of_answered answered busy notAdmitting) idle

theorem Diligent.step {next : Fleet σ} {move : Move} (diligent : fleet.Diligent)
    (punctual : fleet.Punctual) (coherent : fleet.Coherent origin) (steady : fleet.Steady move)
    (step : fleet.step? move = some next) : next.Diligent := by
  intro other member' found
  cases steps_of_step? step with
  | passed =>
      exact { diligent other member' found with
        inTime := steady member' (List.mem_of_getElem? found) }
  | batchLaunched =>
      rcases getElem?_joined found with rfl | before
      · exact ⟨rfl, steady, Nat.zero_le _, fun _ => rfl, fun busy => nomatch busy⟩
      · exact diligent other member' before
  | intakeLaunched =>
      rcases getElem?_joined found with rfl | before
      · exact ⟨rfl, trivial, Nat.zero_le _, fun _ => rfl, fun busy => nomatch busy⟩
      · exact diligent other member' before
  | acted there acts =>
      rcases getElem?_replaced there found with ⟨rfl, rfl⟩ | ⟨-, before⟩
      · exact diligent.of_acts punctual coherent there steady acts
      · exact diligent other member' before

/-- All that holds of a fleet of steady workers. -/
structure Reliable (origin : String → Option Redemption) (fleet : Fleet σ) : Prop where
  coherent : fleet.Coherent origin
  protects : fleet.Protected
  punctual : fleet.Punctual
  diligent : fleet.Diligent

theorem Reliable.step {next : Fleet σ} {move : Move} (reliable : fleet.Reliable origin)
    (steady : fleet.Steady move) (step : fleet.step? move = some next) :
    next.Reliable origin where
  coherent := reliable.coherent.step step
  protects := reliable.protects.step reliable.coherent step
  punctual := by
    refine reliable.punctual.step ?_ step
    cases steps_of_step? step with
    | acted there acts => exact reliable.diligent.prompt there acts
    | passed | batchLaunched | intakeLaunched => trivial
  diligent := reliable.diligent.step reliable.punctual reliable.coherent steady step

theorem reliable_initial (sound : LawfulStore.Sound store) (clock : Nat) :
    (initial store clock).Reliable (LawfulStore.record? store) where
  coherent := coherent_initial sound clock
  protects := protected_initial store clock
  punctual := punctual_initial store clock
  diligent _ _ impossible := nomatch impossible

end Fleet

end RedemptionRelay
