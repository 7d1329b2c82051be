import RedemptionRelay.Proofs.Fleet.Diligence
import RedemptionRelay.Proofs.Fleet.Integrity

/-! # One call for a redemption

A batch may have read two states of one record, because it reads the states of
its phase one after the other. But a claim lands only on the last state of all,
and what the batch still has to claim then is older than what it has written. So
it makes one call for a redemption at most.
-/

namespace RedemptionRelay

def HistoryEntry.isCallBy (worker : Nat) (id : String) (entry : HistoryEntry) : Bool :=
  match entry.deed with
  | .called called _ => entry.member == worker && called == id
  | _ => false

/-! ## What is still to be claimed -/

namespace Stage

def isLoading : Stage → Bool
  | .loading _ _ _ => true
  | _ => false

def unclaimed : Stage → List Redemption
  | .loading loaded _ _ => loaded
  | .admitting record queue => record :: queue
  | .claiming record _ _ queue => record :: queue
  | .leasing claimed _ queue => claimed :: queue
  | .calling _ _ queue | .marking _ _ _ queue | .logging _ _ _ _ queue => queue
  | .committing _ _ queue | .announcing _ _ queue => queue
  | .finished _ => []

theorem Traced.known_of_unclaimed {stage : Stage} {mandate : Mandate} {outlook : Outlook}
    (traced : stage.Traced mandate outlook) {record : Redemption}
    (among : record ∈ stage.unclaimed) :
    ∃ base, outlook.known base ∧ base.edition = record.edition := by
  cases stage with
  | loading loaded status later => exact ⟨record, (traced.1 record among).known, rfl⟩
  | admitting first queue => exact ⟨record, (traced record among).known, rfl⟩
  | claiming first leaseUntil attempt queue =>
      rcases List.mem_cons.mp among with rfl | later
      · exact ⟨record, traced.1.found.known, rfl⟩
      · exact ⟨record, (traced.2 record later).known, rfl⟩
  | leasing claimed attempt queue =>
      rcases List.mem_cons.mp among with rfl | later
      · rcases traced.1 with ⟨base, leaseUntil, now, admits, rfl⟩
        exact ⟨base, admits.found.known, rfl⟩
      · exact ⟨record, (traced.2 record later).known, rfl⟩
  | calling | marking | logging | committing => exact ⟨record, (traced.2 record among).known, rfl⟩
  | announcing => exact ⟨record, (traced record among).known, rfl⟩
  | finished => cases among

end Stage

namespace Batch

variable {batch next : Batch} {request : Request} {answer : request.Answer}
  {queue : List Redemption}

/-- Once the records have been read, no other ones are taken up. -/
structure Narrows (batch next : Batch) : Prop where
  read : next.stage.isLoading = false
  fewer : ∀ record ∈ next.stage.unclaimed,
    ∃ base ∈ batch.stage.unclaimed, base.edition = record.edition

theorem narrows_proceed (fewer : queue ⊆ batch.stage.unclaimed) (summary : Summary) :
    batch.Narrows ({ batch with summary := summary }.proceed queue) := by
  cases queue with
  | nil => exact ⟨rfl, fun _ among => nomatch among⟩
  | cons record queue => exact ⟨rfl, fun record among => ⟨record, fewer among, rfl⟩⟩

theorem narrows_afterFailedWrite (fewer : queue ⊆ batch.stage.unclaimed) (error : StoreError) :
    batch.Narrows (batch.afterFailedWrite queue error) := by
  cases error <;> exact narrows_proceed fewer _

theorem narrows_of_answered (answered : batch.Answered request answer next)
    (read : batch.stage.isLoading = false) : batch.Narrows next := by
  have kept {stage : Stage} (notLoading : stage.isLoading = false)
      (fewer : stage.unclaimed ⊆ batch.stage.unclaimed) : batch.Narrows (batch.move stage) :=
    ⟨notLoading, fun record among => ⟨record, fewer among, rfl⟩⟩
  cases answered with
  | read stage | unread stage => rw [stage] at read; cases read
  | @admitted record queue now stage =>
      have fewer : queue ⊆ batch.stage.unclaimed := by
        rw [stage]
        exact List.subset_cons_self record queue
      cases batch.policy.decide batch.phase record now with
      | skip reason => exact narrows_proceed fewer _
      | abandon error => exact kept rfl fewer
      | attempt call limit leaseUntil => exact kept rfl (by rw [stage]; exact List.Subset.refl _)
      | overflow => exact kept rfl (List.nil_subset _)
  | @claimed record leaseUntil now attempt queue stage =>
      refine ⟨rfl, fun other among => ?_⟩
      rw [stage]
      rcases List.mem_cons.mp among with rfl | later
      · exact ⟨record, List.mem_cons_self, rfl⟩
      · exact ⟨other, List.mem_cons_of_mem _ later, rfl⟩
  | leased stage => exact kept rfl (by rw [stage]; exact List.subset_cons_self _ _)
  | unleased stage =>
      exact narrows_afterFailedWrite (by rw [stage]; exact List.subset_cons_self _ _) _
  | replied stage | marked stage | logged stage =>
      exact kept rfl (by rw [stage]; exact List.Subset.refl _)
  | forbidden stage | announced stage =>
      exact narrows_proceed (by rw [stage]; exact List.Subset.refl _) _
  | @committed record outcome queue version stage =>
      have same : queue ⊆ batch.stage.unclaimed := by rw [stage]; exact List.Subset.refl _
      dsimp only [afterCommit]
      cases milestone? record outcome with
      | some milestone => exact kept rfl same
      | none => exact narrows_proceed same _
  | uncommitted stage =>
      exact narrows_afterFailedWrite (by rw [stage]; exact List.Subset.refl _) _

theorem isLoading_of_written (answered : batch.Answered request answer next) {record : Redemption}
    (written : request.written? answer = some record) : batch.stage.isLoading = false := by
  cases answered with
  | leased stage | committed stage => rw [stage]; rfl
  | read | unread | admitted | claimed | unleased | replied | marked | logged | forbidden
  | uncommitted | announced => cases written

theorem leasing_of_attempt? {outlook : Outlook} {claimed : Redemption} {attempt : Attempt}
    (answered : batch.Answered request answer next)
    (granted : outlook.Grants batch.stage.isAdmitting request answer)
    (attempts : next.stage.attempt? = some (claimed, attempt)) :
    ∃ base queue, batch.stage = .leasing base attempt queue ∧
      request.written? answer = some claimed ∧
        claimed = { base with version := base.version + 1 } := by
  rcases rests_or_works answered with rests | ⟨stage, works, rfl⟩
  · have free := rests.free
    cases stage : next.stage with
    | calling claimed attempt queue => rw [stage] at free; cases free
    | _ => rw [stage] at attempts; cases attempts
  · cases works with
    | leased stage =>
        cases attempts
        exact ⟨_, _, stage, rfl, by rw [granted.1]⟩
    | abandoned | admitted | claimed | replied | marked | logged => cases attempts

end Batch

namespace Job

def isLoading : Job → Bool
  | .batch work => work.stage.isLoading
  | .intake _ => false

def unclaimed : Job → List Redemption
  | .batch work => work.stage.unclaimed
  | .intake _ => []

variable {job next : Job} {request : Request} {answer : request.Answer} {outlook : Outlook}

theorem Traced.known_of_unclaimed (traced : job.Traced outlook) {record : Redemption}
    (among : record ∈ job.unclaimed) :
    ∃ base, outlook.known base ∧ base.edition = record.edition := by
  cases job with
  | batch work => exact Stage.Traced.known_of_unclaimed traced among
  | intake work => cases among

theorem unclaimed_of_answered (answered : job.Answered request answer next)
    (read : job.isLoading = false) :
    next.isLoading = false ∧ ∀ record ∈ next.unclaimed,
      ∃ base ∈ job.unclaimed, base.edition = record.edition := by
  cases answered with
  | batch answered =>
      have narrows := Batch.narrows_of_answered answered read
      exact ⟨narrows.read, narrows.fewer⟩
  | intake answered => exact ⟨rfl, fun _ among => nomatch among⟩

theorem isLoading_of_written (answered : job.Answered request answer next) {record : Redemption}
    (written : request.written? answer = some record) : job.isLoading = false := by
  cases answered with
  | intake answered => rfl
  | batch answered => exact Batch.isLoading_of_written answered written

theorem claimed_of_attempt? {claimed : Redemption} {attempt : Attempt}
    (answered : job.Answered request answer next)
    (granted : outlook.Grants job.isAdmitting request answer)
    (attempts : next.attempt? = some (claimed, attempt)) :
    request.written? answer = some claimed ∧
      ∃ base ∈ job.unclaimed, base.id = claimed.id ∧ claimed.version = base.version + 1 := by
  cases answered with
  | intake answered => cases attempts
  | batch answered =>
      rcases Batch.leasing_of_attempt? answered granted attempts with
        ⟨base, queue, stage, written, rfl⟩
      refine ⟨written, base, ?_, rfl, rfl⟩
      show base ∈ Stage.unclaimed _
      rw [stage]
      exact List.mem_cons_self

end Job

/-! ## What a worker has written and called -/

namespace Fleet

variable {σ : Type}

structure Thrifty (fleet : Fleet σ) : Prop where
  /-- Whoever has done something is there. -/
  enrolled : ∀ entry ∈ fleet.history, entry.member < fleet.members.length
  /-- What a worker has written is newer than what it still has to claim. -/
  newer : ∀ (index : Nat) (member : Member), fleet.members[index]? = some member →
    ∀ written, fleet.Wrote index written → member.job.isLoading = false ∧
      ∀ record ∈ member.job.unclaimed, record.id = written.id → record.version < written.version
  /-- What a worker has called for it has claimed before. -/
  claimed : ∀ index id call, ⟨index, .called id call⟩ ∈ fleet.history →
    ∃ written, fleet.Wrote index written ∧ written.id = id
  /-- A call that may come next is the first one for its redemption. -/
  uncalled : ∀ (index : Nat) (member : Member), fleet.members[index]? = some member →
    member.isHalted = false → member.calledAt = none →
      ∀ claimed attempt, member.job.attempt? = some (claimed, attempt) →
        ∀ call, ⟨index, .called claimed.id call⟩ ∉ fleet.history
  once : ∀ worker id, fleet.history.countP (·.isCallBy worker id) ≤ 1

theorem thrifty_initial (store : σ) (clock : Nat) : (initial store clock).Thrifty where
  enrolled _ impossible := nomatch impossible
  newer _ _ impossible := nomatch impossible
  claimed _ _ _ impossible := nomatch impossible
  uncalled _ _ impossible := nomatch impossible
  once _ _ := Nat.zero_le _

variable {fleet : Fleet σ} {index other : Nat} {member after : Member} {store : σ}
  {deeds : List Deed} {job : Job}

theorem Thrifty.joined (thrifty : fleet.Thrifty) (idle : job.attempt? = none) :
    (fleet.joined job).Thrifty := by
  have nothingDone (deed : Deed) : ⟨fleet.members.length, deed⟩ ∉ fleet.history :=
    fun done => Nat.lt_irrefl _ (thrifty.enrolled _ done)
  refine ⟨fun entry done => ?_, ?_, thrifty.claimed, ?_, thrifty.once⟩
  · rw [Fleet.joined, List.length_append]
    exact Nat.lt_add_right _ (thrifty.enrolled entry done)
  · intro index member found written wrote
    by_cases before : fleet.members[index]? = some member
    · exact thrifty.newer index member before written wrote
    · cases last_of_joined found before
      exact absurd wrote (nothingDone _)
  · intro index member found running notCalling claimed attempt attempts
    rcases getElem?_joined found with rfl | before
    · cases idle.symm.trans attempts
    · exact thrifty.uncalled index member before running notCalling claimed attempt attempts

theorem isCallBy_called {worker index : Nat} {id other : String} {call : Call} :
    HistoryEntry.isCallBy worker id ⟨index, .called other call⟩ = true ↔
      index = worker ∧ other = id := by
  simp only [HistoryEntry.isCallBy, Bool.and_eq_true, beq_iff_eq]

theorem countP_of_uncalled {worker : Nat} {id : String}
    (uncalled : ∀ call, ⟨worker, .called id call⟩ ∉ fleet.history) :
    fleet.history.countP (·.isCallBy worker id) = 0 := by
  refine List.countP_eq_zero.mpr ?_
  rintro ⟨index, deed⟩ done isCall
  cases deed with
  | called other call =>
      rcases isCallBy_called.mp isCall with ⟨rfl, rfl⟩
      exact uncalled call done
  | stored | refused | replied | announced => cases isCall

variable [Store σ] [LawfulStore σ] {origin : String → Option Redemption} {action : Action}

theorem Served.stored_iff {request : Request} {answer : request.Answer}
    (served : Served origin fleet index member request answer store deeds) {record : Redemption} :
    .stored record ∈ deeds ↔ request.written? answer = some record := by
  cases served <;> simp [Request.written?, eq_comm]

omit [Store σ] [LawfulStore σ] in
theorem written?_of_failure? {request : Request} {answer : request.Answer} {error : StoreError}
    (fails : request.failure? error = some (answer, deeds)) : request.written? answer = none := by
  cases request <;> cases fails <;> rfl

section Acts

variable (coherent : fleet.Coherent origin) (there : fleet.members[index]? = some member)
  (acts : fleet.Acts member action after store deeds)

omit [LawfulStore σ] in
include acts in
theorem unclaimed_of_acts (read : member.job.isLoading = false) :
    after.job.isLoading = false ∧ ∀ record ∈ after.job.unclaimed,
      ∃ base ∈ member.job.unclaimed, base.edition = record.edition := by
  have same : member.job.isLoading = false ∧ ∀ record ∈ member.job.unclaimed,
      ∃ base ∈ member.job.unclaimed, base.edition = record.edition :=
    ⟨read, fun record among => ⟨record, among, rfl⟩⟩
  cases acts with
  | proceeded _ answered =>
      rw [Member.job_goOn]
      exact Job.unclaimed_of_answered answered read
  | failed _ answered | heard _ _ _ answered => exact Job.unclaimed_of_answered answered read
  | called | unheard | halted => exact same

include coherent there acts

theorem Coherent.isLoading_of_stored {record : Redemption} (stored : .stored record ∈ deeds) :
    member.job.isLoading = false := by
  cases acts with
  | proceeded _ answered fits serves =>
      have served := coherent.served_of_answer? there answered fits serves
      exact Job.isLoading_of_written answered (served.stored_iff.mp stored)
  | failed _ _ fails => exact absurd stored (quiet_of_failure? fails record)
  | called | heard | unheard | halted => simp at stored

/-- A write lands only on the last state, so every state that was there before
is older. -/
theorem Coherent.older_of_stored {record base : Redemption} (stored : .stored record ∈ deeds)
    (known : base ∈ fleet.trail origin base.id) (sameId : base.id = record.id) :
    base.version < record.version := by
  rcases coherent.current_of_known known with ⟨last, current, notAfter⟩
  cases coherent.writes_of_acts there acts with
  | nothing quiet => exact absurd stored (quiet record)
  | begun begun vacant =>
      cases List.mem_singleton.mp stored
      rw [sameId, vacant] at current
      cases current
  | changed precedes isCurrent =>
      cases List.mem_singleton.mp stored
      rw [sameId, precedes.id, isCurrent] at current
      cases current
      rw [precedes.version]
      rcases notAfter with rfl | before
      · exact Nat.lt_succ_self _
      · exact Nat.lt_succ_of_lt before.version

theorem Coherent.calling_of_called {id : String} {call : Call} (called : .called id call ∈ deeds) :
    member.isHalted = false ∧ member.calledAt = none ∧ after.calledAt = some fleet.clock := by
  cases acts with
  | proceeded _ answered fits serves =>
      cases coherent.served_of_answer? there answered fits serves <;> simp at called
  | @failed error request _ _ _ _ _ fails => cases request <;> cases fails <;> simp at called
  | called running idle => exact ⟨running, idle, rfl⟩
  | heard | unheard | halted => simp at called

theorem Coherent.claimed_of_called {id : String} {call : Call} (called : .called id call ∈ deeds) :
    ∃ written, fleet.Wrote index written ∧ written.id = id := by
  rcases coherent.attempt_of_called there acts called with ⟨claimed, attempt, attempts, -, rfl, -⟩
  rcases (coherent.traced index member there).holds_of_attempt? attempts with ⟨_, -, -, holds⟩
  exact ⟨claimed, holds.own, rfl⟩

end Acts

namespace Thrifty

variable (thrifty : fleet.Thrifty) (coherent : fleet.Coherent origin)
  (there : fleet.members[index]? = some member)
  (acts : fleet.Acts member action after store deeds)
include thrifty coherent there acts

theorem newer_acted {written : Redemption}
    (wrote : (fleet.replaced index after store deeds).Wrote index written) :
    after.job.isLoading = false ∧ ∀ record ∈ after.job.unclaimed, record.id = written.id →
      record.version < written.version := by
  rcases wrote_replaced_iff.mp wrote with before | ⟨-, stored⟩
  · rcases thrifty.newer index member there written before with ⟨read, newer⟩
    rcases unclaimed_of_acts acts read with ⟨stillRead, fewer⟩
    refine ⟨stillRead, fun record among sameId => ?_⟩
    rcases fewer record among with ⟨base, among, sameEdition⟩
    rcases Prod.mk.inj sameEdition with ⟨sameBase, sameVersion⟩
    exact sameVersion ▸ newer base among (sameBase.trans sameId)
  · rcases unclaimed_of_acts acts (coherent.isLoading_of_stored there acts stored) with
      ⟨read, fewer⟩
    refine ⟨read, fun record among sameId => ?_⟩
    rcases fewer record among with ⟨read, among, sameEdition⟩
    rcases (coherent.traced index member there).known_of_unclaimed among with
      ⟨base, known, isRead⟩
    rcases Prod.mk.inj (isRead.trans sameEdition) with ⟨sameBase, sameVersion⟩
    exact sameVersion ▸ coherent.older_of_stored there acts stored known (sameBase.trans sameId)

/-- A claim lands only for whom has not called for the record: what such a
worker still has to claim is older than its own claim. -/
theorem uncalled_of_claim {base claimed : Redemption} (among : base ∈ member.job.unclaimed)
    (sameId : base.id = claimed.id) (isNext : claimed.version = base.version + 1)
    (stored : .stored claimed ∈ deeds) (call : Call) :
    ⟨index, .called claimed.id call⟩ ∉ fleet.history := by
  intro called
  rcases thrifty.claimed index claimed.id call called with ⟨written, wrote, ofId⟩
  have newer : base.version < written.version :=
    (thrifty.newer index member there written wrote).2 base among (sameId.trans ofId.symm)
  have older : written.version < claimed.version :=
    coherent.older_of_stored there acts stored (mem_trail_of_wrote wrote) ofId
  omega

theorem uncalled_acted (running : after.isHalted = false) (idle : after.calledAt = none)
    {claimed : Redemption} {attempt : Attempt}
    (attempts : after.job.attempt? = some (claimed, attempt)) (call : Call) :
    ⟨index, .called claimed.id call⟩ ∉ (fleet.replaced index after store deeds).history := by
  intro called
  rcases List.mem_append.mp called with before | now
  · have acted := acts
    cases acts with
    | @proceeded request answer next store deeds _ answered fits serves =>
        rw [Member.job_goOn] at attempts
        have served := coherent.served_of_answer? there answered fits serves
        have granted := coherent.grants_of_served next served
        rcases Job.claimed_of_attempt? answered granted attempts with
          ⟨written, base, among, sameId, isNext⟩
        have stored : .stored claimed ∈ deeds := served.stored_iff.mpr written
        exact thrifty.uncalled_of_claim coherent there acted among sameId isNext stored call before
    | @failed error request answer next deeds _ answered fails =>
        have granted : (fleet.outlook origin index member).Grants member.job.isAdmitting
          request answer := grants_of_failure? _ fails
        have written := (Job.claimed_of_attempt? answered granted attempts).1
        rw [written?_of_failure? fails] at written
        cases written
    | called => cases idle
    | heard _ _ _ answered =>
        have awaits := Job.awaitsReply_of_attempt? attempts
        rw [Job.awaitsReply_of_perform answered] at awaits
        cases awaits
    | unheard halted => exact absurd (halted.symm.trans running) (by simp)
    | halted => cases running
  · rcases List.mem_map.mp now with ⟨deed, done, same⟩
    cases same
    have calling := (coherent.calling_of_called there acts done).2.2
    rw [idle] at calling
    cases calling

theorem once_acted (worker : Nat) (id : String) :
    (fleet.replaced index after store deeds).history.countP (·.isCallBy worker id) ≤ 1 := by
  show (fleet.history ++ deeds.map _).countP _ ≤ 1
  rw [List.countP_append]
  by_cases calls : ∃ call, index = worker ∧ .called id call ∈ deeds
  · rcases calls with ⟨call, rfl, called⟩
    rcases coherent.attempt_of_called there acts called with
      ⟨claimed, attempt, attempts, rfl, rfl, -⟩
    rcases coherent.calling_of_called there acts called with ⟨running, idle, -⟩
    rw [countP_of_uncalled (thrifty.uncalled index member there running idle _ _ attempts),
      Nat.zero_add]
    exact List.countP_le_length
  · have nothing : (deeds.map fun deed => (⟨index, deed⟩ : HistoryEntry)).countP
        (·.isCallBy worker id) = 0 := by
      refine List.countP_eq_zero.mpr ?_
      rintro entry among isCall
      rcases List.mem_map.mp among with ⟨deed, done, rfl⟩
      cases deed with
      | called other call =>
          rcases isCallBy_called.mp isCall with ⟨rfl, rfl⟩
          exact calls ⟨call, rfl, done⟩
      | stored | refused | replied | announced => cases isCall
    rw [nothing]
    exact thrifty.once worker id

theorem replaced : (fleet.replaced index after store deeds).Thrifty := by
  have inside : index < fleet.members.length := (List.getElem?_eq_some_iff.mp there).1
  have mem_replaced {worker : Nat} {deed : Deed}
      (done : ⟨worker, deed⟩ ∈ (fleet.replaced index after store deeds).history) :
      ⟨worker, deed⟩ ∈ fleet.history ∨ (worker = index ∧ deed ∈ deeds) := by
    rcases List.mem_append.mp done with before | now
    · exact .inl before
    · rcases List.mem_map.mp now with ⟨deed, done, same⟩
      cases same
      exact .inr ⟨rfl, done⟩
  refine ⟨?_, ?_, ?_, ?_, thrifty.once_acted coherent there acts⟩
  · rintro ⟨worker, deed⟩ done
    show worker < (fleet.members.set _ _).length
    rw [List.length_set]
    rcases mem_replaced done with before | ⟨rfl, -⟩
    · exact thrifty.enrolled _ before
    · exact inside
  · intro other member' found written wrote
    rcases getElem?_replaced there found with ⟨rfl, rfl⟩ | ⟨different, before⟩
    · exact thrifty.newer_acted coherent there acts wrote
    · rcases wrote_replaced_iff.mp wrote with wroteBefore | ⟨same, -⟩
      · exact thrifty.newer other member' before written wroteBefore
      · exact absurd same different
  · intro worker id call called
    rcases mem_replaced called with before | ⟨rfl, now⟩
    · rcases thrifty.claimed worker id call before with ⟨written, wrote, ofId⟩
      exact ⟨written, wrote.replaced, ofId⟩
    · rcases coherent.claimed_of_called there acts now with ⟨written, wrote, ofId⟩
      exact ⟨written, wrote.replaced, ofId⟩
  · intro other member' found running idle claimed attempt attempts call
    rcases getElem?_replaced there found with ⟨rfl, rfl⟩ | ⟨different, before⟩
    · exact thrifty.uncalled_acted coherent there acts running idle attempts call
    · intro called
      rcases mem_replaced called with calledBefore | ⟨same, -⟩
      · exact thrifty.uncalled other member' before running idle _ _ attempts call calledBefore
      · exact different same

omit there acts in
theorem step {next : Fleet σ} {move : Move} (step : fleet.step? move = some next) :
    next.Thrifty := by
  cases steps_of_step? step with
  | passed => exact { thrifty with }
  | batchLaunched => exact thrifty.joined rfl
  | intakeLaunched =>
      have toldThrifty {listener : Listener} {raw : RawEvent} :
          (fleet.told listener raw).Thrifty := { thrifty with }
      exact toldThrifty.joined rfl
  | acted there acts => exact thrifty.replaced coherent there acts

end Thrifty

theorem Run.thrifty {allowed : Fleet σ → Move → Prop} {clock : Nat}
    (sound : LawfulStore.Sound store) (run : Run allowed (initial store clock) fleet) :
    fleet.Thrifty := by
  induction run with
  | rest => exact thrifty_initial store clock
  | move move run _ step thrifty => exact thrifty.step (run.coherent sound) step

end Fleet

end RedemptionRelay
