import RedemptionRelay.Proofs.Fleet.Diligence

/-! # A redemption is settled once

After a submission that succeeded the worker still has to store it. Under its
lease nobody else touches the record until then, and afterwards the record has
ended. So no other call for the redemption is ever made again.
-/

namespace RedemptionRelay

/-! ## What is stored after the submission -/

theorem Redemption.completed_of_apply {record next : Redemption} {tx : String} {now logged : Nat}
    (changed : record.apply (.completed tx) now logged = .ok next) :
    next.status = .completed ∧ next.settlement = some tx := by
  rcases become_bind_eq_ok.mp changed with ⟨-, rfl⟩
  exact ⟨rfl, rfl⟩

theorem Redemption.completed_of_status {record next : Redemption} {mark : Mark} {now logged : Nat}
    (alive : record.status.isTerminal = false) (changed : record.apply mark now logged = .ok next)
    (completed : next.status = .completed) : ∃ tx, mark = .completed tx := by
  have status := status_of_apply changed
  rw [completed] at status
  cases mark with
  | completed tx => exact ⟨tx, rfl⟩
  | claim | release => rw [← (status : Status.completed = record.status)] at alive; cases alive
  | fetched | fetchFailed | submitFailed | failed => exact nomatch status.2

theorem RetryPolicy.submit_of_conclude {policy : RetryPolicy} {claimed : Redemption}
    {started : Nat} {call : Call} {reply : Option call.Reply} {tx : String}
    (completes : (policy.conclude claimed started call reply).1 = .completed tx) :
    ∃ payload event, call = .submit payload event := by
  cases call with
  | submit payload event => exact ⟨payload, event, rfl⟩
  | fetch sourceTxHash =>
      dsimp only [conclude] at completes
      unfold concludeFetch at completes
      split at completes
      · cases completes
      · cases completes
      · cases completes
      · cases completes
      · split at completes <;> cases completes

namespace Mandate

variable {mandate : Mandate} {outlook : Outlook} {record : Redemption} {mark : Mark}
  {outcome : Outcome} {tx : String}

theorem Owes.holds_of_completed (owes : mandate.Owes outlook record mark outcome)
    (completes : mark = .completed tx) :
    record.status.canBecome .completed = true ∧
      ∃ attempt, mandate.Holds outlook record attempt := by
  cases owes with
  | abandoned => cases completes
  | @concluded attempt reply holds =>
      refine ⟨?_, attempt, holds⟩
      rcases RetryPolicy.submit_of_conclude completes with ⟨payload, event, isSubmit⟩
      rcases holds.claim with ⟨claimable, _, _, admits, -⟩
      have isCall := (RetryPolicy.attempts_of_decide admits.decided).isCall
      have status := holds.found.status
      rw [isSubmit] at isCall
      cases phase : mandate.phase with
      | attestation => rw [phase] at isCall; cases isCall
      | settlement =>
          rw [phase] at status
          rcases status with fetched | submitFailed
          · rw [fetched]; rfl
          · rw [submitFailed]; rfl

end Mandate

/-- The submission with this result is stored next. -/
def Stage.Settles (id tx : String) : Stage → Prop
  | .marking record mark _ _ => record.id = id ∧ mark = .completed tx
  | .logging record mark _ _ _ => record.id = id ∧ mark = .completed tx
  | .committing next _ _ => next.id = id ∧ next.status = .completed ∧ next.settlement = some tx
  | _ => False

namespace Job

def Settles (id tx : String) : Job → Prop
  | .batch work => work.stage.Settles id tx
  | .intake _ => False

variable {job : Job} {id tx : String} {outlook : Outlook}

theorem Settles.attempt?_eq_none (settles : job.Settles id tx) : job.attempt? = none := by
  cases job with
  | intake work => cases settles
  | batch work =>
      rcases work with ⟨phase, policy, chain, summary, stage⟩
      cases stage <;> first | rfl | cases settles

theorem Settles.isBusy (settles : job.Settles id tx) : job.isBusy = true := by
  cases job with
  | intake work => cases settles
  | batch work =>
      rcases work with ⟨phase, policy, chain, summary, stage⟩
      cases stage <;> first | rfl | cases settles

theorem Traced.holds_of_settles (traced : job.Traced outlook) (settles : job.Settles id tx) :
    ∃ (mandate : Mandate) (record : Redemption) (attempt : Attempt),
      job.margin = mandate.policy.leaseMargin ∧
      job.limit = mandate.policy.timeout mandate.phase ∧
      mandate.Holds outlook record attempt ∧
      job.edition? = some record.edition ∧ record.id = id := by
  cases job with
  | intake work => cases settles
  | batch work =>
      rcases work with ⟨phase, policy, chain, summary, stage⟩
      cases stage with
      | marking record mark outcome queue | logging record mark now outcome queue =>
          rcases settles with ⟨sameId, completes⟩
          rcases traced.1.holds_of_completed completes with ⟨-, attempt, holds⟩
          exact ⟨_, record, attempt, rfl, rfl, holds, rfl, sameId⟩
      | committing next outcome queue =>
          rcases settles with ⟨sameId, completed, -⟩
          rcases traced with ⟨⟨record, mark, now, logged, owes, changed⟩, -⟩
          rcases Redemption.completed_of_status owes.found.alive changed completed with
            ⟨_, completes⟩
          rcases owes.holds_of_completed completes with ⟨-, attempt, holds⟩
          have edition := Redemption.edition_of_apply changed
          exact ⟨_, record, attempt, rfl, rfl, holds, congrArg some edition,
            (Prod.mk.inj edition).1.symm.trans sameId⟩
      | _ => cases settles

end Job

theorem Deed.eq_of_success? {deed : Deed} {id tx : String}
    (succeeded : deed.success? = some (id, tx)) :
    ∃ payload event, deed = .replied id (.submit payload event) (some (.ok tx)) := by
  unfold success? at succeeded
  split at succeeded
  · cases succeeded
    exact ⟨_, _, rfl⟩
  · cases succeeded

namespace Fleet

variable {σ : Type} [Store σ] [LawfulStore σ] {origin : String → Option Redemption}
  {fleet : Fleet σ} {index : Nat} {member after : Member} {store : σ} {deeds : List Deed}
  {action : Action} {id tx : String} {claimed : Redemption} {attempt : Attempt}

namespace Reliable

variable (reliable : fleet.Reliable origin) (there : fleet.members[index]? = some member)
include reliable there

theorem current_of_attempt? (attempts : member.job.attempt? = some (claimed, attempt)) :
    fleet.Wrote index claimed ∧ claimed.status.isTerminal = false ∧
      LawfulStore.record? fleet.store claimed.id = some claimed := by
  have inTime : fleet.clock + Duration.nanosecondsPerSecond ≤
      member.admittedAt + member.job.margin.nanoseconds + attempt.limit.nanoseconds := by
    cases calledAt : member.calledAt with
    | some start =>
        rcases reliable.punctual.calling index member start there calledAt with
          ⟨_, _, attempts', started, inLimit⟩
        cases attempts.symm.trans attempts'
        omega
    | none =>
        have keepsTime := reliable.diligent index member there
        have awaits := Job.awaitsReply_of_attempt? attempts
        have inTime := keepsTime.inTime (Job.isBusy_of_awaitsReply awaits) calledAt
        rw [keepsTime.spent_eq awaits] at inTime
        omega
  rcases reliable.coherent.leased_of_attempt? there attempts inTime with ⟨wrote, alive, leased⟩
  have atHand := Job.edition?_of_attempt? attempts
  exact ⟨wrote, alive, reliable.protects.held index member claimed there wrote atHand leased⟩

theorem inTime_of_settles (settles : member.job.Settles id tx) :
    fleet.clock + Duration.nanosecondsPerSecond ≤
      member.admittedAt + member.spent + member.job.margin.nanoseconds := by
  apply (reliable.diligent index member there).inTime settles.isBusy
  cases calledAt : member.calledAt with
  | none => rfl
  | some start =>
      rcases reliable.punctual.calling index member start there calledAt with
        ⟨_, _, attempts, -⟩
      rw [settles.attempt?_eq_none] at attempts
      cases attempts

theorem current_of_settles (settles : member.job.Settles id tx) :
    ∃ record, fleet.Wrote index record ∧ member.job.edition? = some record.edition ∧
      LawfulStore.record? fleet.store id = some record := by
  have inTime := reliable.inTime_of_settles there settles
  have spent := (reliable.diligent index member there).spent_le
  rcases (reliable.coherent.traced _ _ there).holds_of_settles settles with
    ⟨mandate, record, attempt, margin, limit, holds, atHand, rfl⟩
  rw [limit, ← holds.limit] at spent
  rw [margin] at inTime
  have leased : record.isLeased fleet.seconds = true := holds.leased rfl (by omega)
  exact ⟨record, holds.own, atHand,
    reliable.protects.held index member record there holds.own atHand leased⟩

theorem settles_of_acts (settles : member.job.Settles id tx)
    (steady : fleet.Steady (.act index action))
    (acts : fleet.Acts member action after store deeds) :
    (deeds = [] ∧ after.job.Settles id tx) ∨
      ∃ record, deeds = [.stored record] ∧ record.id = id ∧ record.status = .completed ∧
        record.settlement = some tx := by
  have traced := reliable.coherent.traced index member there
  rcases reliable.current_of_settles there settles with ⟨held, wrote, atHand, current⟩
  cases acts with
  | failed | halted => cases steady
  | called _ _ attempts =>
      rw [settles.attempt?_eq_none] at attempts
      cases attempts
  | heard _ _ attempts =>
      rw [settles.attempt?_eq_none] at attempts
      cases attempts
  | unheard halted =>
      exact absurd (halted.symm.trans (reliable.diligent index member there).running) (by simp)
  | @proceeded request answer next store deeds _ answered fits serves =>
      have served := reliable.coherent.served_of_answer? there answered fits serves
      rw [Member.job_goOn]
      cases job : member.job with
      | intake work => rw [job] at settles; cases settles
      | batch work =>
          rw [job] at settles traced answered atHand
          change work.stage.Settles id tx at settles
          change work.stage.Traced work.mandate _ at traced
          change work.stage.edition? = some held.edition at atHand
          cases answered with
          | batch answered =>
              cases answered with
              | marked stage =>
                  rw [stage] at settles
                  cases served
                  exact .inl ⟨rfl, settles⟩
              | logged stage changed =>
                  rw [stage] at settles
                  rcases settles with ⟨sameId, rfl⟩
                  cases served
                  have sameRequest := Redemption.sameRequest_of_apply changed
                  exact .inl ⟨rfl, sameRequest.id.trans sameId,
                    Redemption.completed_of_apply changed⟩
              | @forbidden record _ outcome queue now logged error stage unchanged =>
                  rw [stage] at settles traced
                  rcases settles with ⟨-, rfl⟩
                  have edge := (traced.1.holds_of_completed rfl).1
                  have possible : ∃ next, record.apply (.completed tx) now logged = .ok next :=
                    Redemption.exists_apply_of_canBecome (by rintro _ ⟨⟩; exact edge)
                  rcases possible with ⟨next, changed⟩
                  exact absurd (changed.symm.trans unchanged) (by simp)
              | committed stage =>
                  rw [stage] at settles
                  cases served with
                  | updated => exact .inr ⟨_, rfl, settles⟩
              | uncommitted stage =>
                  rw [stage] at settles atHand
                  cases served with
                  | @stale base _ _ isBase known sameRequest superseded =>
                      have edition : base.edition = held.edition :=
                        (Prod.ext sameRequest.id.symm isBase).trans (Option.some.inj atHand)
                      have isHeld := reliable.coherent.same_of_edition known
                        (mem_trail_of_wrote wrote) edition
                      rw [← settles.1, sameRequest.id, ← isHeld] at current
                      exact absurd current superseded
              | read stage | unread stage | admitted stage | claimed stage | leased stage
              | unleased stage | replied stage | announced stage =>
                  rw [stage] at settles
                  cases settles

end Reliable

/-! ## What comes after the submission -/

theorem Coherent.settles_of_replied (coherent : fleet.Coherent origin)
    (there : fleet.members[index]? = some member) {payload : Bytes} {event : Event}
    (acts : fleet.Acts member action after store deeds)
    (replied : .replied id (.submit payload event) (some (.ok tx)) ∈ deeds) :
    deeds = [.replied id (.submit payload event) (some (.ok tx))] ∧ after.job.Settles id tx := by
  cases acts with
  | called => cases List.mem_singleton.mp replied
  | unheard | halted => cases replied
  | @failed error request _ _ _ _ _ fails => cases request <;> cases fails <;> simp at replied
  | proceeded _ answered fits serves =>
      have served := coherent.served_of_answer? there answered fits serves
      cases served <;> simp at replied
  | @heard reply start claimed attempt _ _ attempts =>
      have same := List.mem_singleton.mp replied
      refine ⟨congrArg (fun deed => [deed]) same.symm, ?_⟩
      rcases attempt with ⟨call, limit, started⟩
      rcases Deed.replied.inj same with ⟨sameId, sameCall, sameReply⟩
      dsimp only at sameCall sameReply
      subst sameCall
      cases job : member.job with
      | intake work => rw [job] at attempts; cases attempts
      | batch work =>
          rcases work with ⟨phase, policy, chain, summary, stage⟩
          rw [job] at attempts
          cases stage <;> cases attempts
          refine ⟨sameId.symm, ?_⟩
          show (policy.concludeSubmit (reply (.submit payload event))).1 = .completed tx
          rw [← eq_of_heq sameReply]
          rfl

/-- What has happened since a submission for the redemption succeeded, and what
is still to come of it. -/
structure Settled (fleet : Fleet σ) (index : Nat) (id tx : String) (since : List HistoryEntry) :
    Prop where
  noCall : ∀ other call, ⟨other, .called id call⟩ ∉ since
  noSuccess : ∀ other payload event tx,
    ⟨other, .replied id (.submit payload event) (some (.ok tx))⟩ ∉ since
  /-- The first write of the worker lands, or it is still on the way to it. -/
  commit :
    (∃ record, since.find? (HistoryEntry.isWriteBy index) = some ⟨index, .stored record⟩ ∧
      record.id = id ∧ record.status = .completed ∧ record.settlement = some tx) ∨
    (since.find? (HistoryEntry.isWriteBy index) = none ∧
      ∃ member, fleet.members[index]? = some member ∧ member.isHalted = false ∧
        member.job.Settles id tx)

variable {since : List HistoryEntry} {other : Nat}

theorem Settled.id_ne_of_attempt? (settled : fleet.Settled index id tx since)
    (reliable : fleet.Reliable origin) (happened : since ⊆ fleet.history)
    (there : fleet.members[other]? = some member)
    (attempts : member.job.attempt? = some (claimed, attempt)) : claimed.id ≠ id := by
  rintro rfl
  rcases reliable.current_of_attempt? there attempts with ⟨wrote, alive, current⟩
  rcases settled.commit with
    ⟨record, first, sameId, completed, -⟩ | ⟨-, settler, its, -, settles⟩
  · have wroteRecord : fleet.Wrote index record := happened (List.mem_of_find?_eq_some first)
    have ended : record.status.isTerminal = true := by rw [completed]; rfl
    have still := reliable.coherent.current_of_ended (mem_trail_of_wrote wroteRecord) ended
    rw [sameId, current] at still
    cases still
    exact absurd (ended.symm.trans alive) (by simp)
  · rcases reliable.current_of_settles its settles with ⟨record, itsWrote, -, currentHeld⟩
    cases current.symm.trans currentHeld
    cases reliable.coherent.eq_of_wrote itsWrote wrote
    cases its.symm.trans there
    rw [settles.attempt?_eq_none] at attempts
    cases attempts

theorem Coherent.attempt?_of_acts (coherent : fleet.Coherent origin)
    (there : fleet.members[index]? = some member)
    (acts : fleet.Acts member action after store deeds)
    (concerns :
      (∃ call, .called id call ∈ deeds) ∨ ∃ call reply, .replied id call reply ∈ deeds) :
    ∃ claimed attempt, member.job.attempt? = some (claimed, attempt) ∧ claimed.id = id := by
  cases acts with
  | called _ _ attempts =>
      refine ⟨_, _, attempts, ?_⟩
      rcases concerns with ⟨_, done⟩ | ⟨_, _, done⟩
      · cases List.mem_singleton.mp done
        rfl
      · cases List.mem_singleton.mp done
  | heard _ _ attempts =>
      refine ⟨_, _, attempts, ?_⟩
      rcases concerns with ⟨_, done⟩ | ⟨_, _, done⟩
      · cases List.mem_singleton.mp done
      · exact (Deed.replied.inj (List.mem_singleton.mp done)).1.symm
  | proceeded _ answered fits serves =>
      have served := coherent.served_of_answer? there answered fits serves
      cases served <;> simp at concerns
  | @failed error request _ _ _ _ _ fails => cases request <;> cases fails <;> simp at concerns
  | unheard | halted => simp at concerns

theorem Settled.replaced (settled : fleet.Settled index id tx since)
    (reliable : fleet.Reliable origin) (happened : since ⊆ fleet.history)
    (there : fleet.members[other]? = some member) (steady : fleet.Steady (.act other action))
    (acts : fleet.Acts member action after store deeds)
    (running : after.isHalted = false) :
    (fleet.replaced other after store deeds).Settled index id tx
      (since ++ deeds.map (⟨other, ·⟩)) := by
  have inside : other < fleet.members.length := (List.getElem?_eq_some_iff.mp there).1
  have notConcerned (concerns : (∃ call, .called id call ∈ deeds) ∨
      ∃ call reply, .replied id call reply ∈ deeds) : False := by
    rcases reliable.coherent.attempt?_of_acts there acts concerns with
      ⟨claimed, attempt, attempts, sameId⟩
    exact settled.id_ne_of_attempt? reliable happened there attempts sameId
  constructor
  · intro caller call called
    rcases List.mem_append.mp called with before | now
    · exact settled.noCall caller call before
    · rcases List.mem_map.mp now with ⟨deed, done, same⟩
      cases same
      exact notConcerned (.inl ⟨_, done⟩)
  · intro caller payload event tx' replied
    rcases List.mem_append.mp replied with before | now
    · exact settled.noSuccess caller payload event tx' before
    · rcases List.mem_map.mp now with ⟨deed, done, same⟩
      cases same
      exact notConcerned (.inr ⟨_, _, done⟩)
  · rw [List.find?_append]
    rcases settled.commit with
      ⟨record, first, landed⟩ | ⟨notYet, settler, its, runs, settles⟩
    · rw [first]
      exact .inl ⟨record, rfl, landed⟩
    · rw [notYet, Option.none_or]
      by_cases same : other = index
      · subst same
        cases its.symm.trans there
        rcases reliable.settles_of_acts there settles steady acts with
          ⟨rfl, settlesStill⟩ | ⟨record, rfl, landed⟩
        · refine .inr ⟨rfl, after, ?_, running, settlesStill⟩
          simp [Fleet.replaced, inside]
        · refine .inl ⟨record, ?_, landed⟩
          simp [HistoryEntry.isWriteBy]
      · refine .inr ⟨?_, settler, ?_, runs, settles⟩
        · rw [List.find?_eq_none]
          intro entry now
          rcases List.mem_map.mp now with ⟨deed, -, rfl⟩
          cases deed <;> simp [HistoryEntry.isWriteBy, same]
        · simpa [Fleet.replaced, same] using its

omit [Store σ] [LawfulStore σ] in
theorem Settled.joined (settled : fleet.Settled index id tx since) (job : Job) :
    (fleet.joined job).Settled index id tx since := by
  refine { settled with commit := settled.commit.imp_right ?_ }
  rintro ⟨notYet, settler, its, settles⟩
  have inside : index < fleet.members.length := (List.getElem?_eq_some_iff.mp its).1
  exact ⟨notYet, settler, (List.getElem?_append_left inside).trans its, settles⟩

/-- Every successful submission so far is the only one for its redemption. -/
def SettlesOnce (fleet : Fleet σ) : Prop :=
  ∀ before since index id payload event tx,
    fleet.history =
        before ++ ⟨index, .replied id (.submit payload event) (some (.ok tx))⟩ :: since →
      fleet.Settled index id tx since

theorem SettlesOnce.replaced (once : fleet.SettlesOnce) (reliable : fleet.Reliable origin)
    (there : fleet.members[other]? = some member) (steady : fleet.Steady (.act other action))
    (acts : fleet.Acts member action after store deeds) (running : after.isHalted = false) :
    (fleet.replaced other after store deeds).SettlesOnce := by
  intro before since index id payload event tx split
  have inside : other < fleet.members.length := (List.getElem?_eq_some_iff.mp there).1
  have fresh (earlier : List HistoryEntry) (now : deeds.map (HistoryEntry.mk other) =
      earlier ++ ⟨index, .replied id (.submit payload event) (some (.ok tx))⟩ :: since) :
      (fleet.replaced other after store deeds).Settled index id tx since := by
    have replied : ⟨index, .replied id (.submit payload event) (some (.ok tx))⟩ ∈
        deeds.map (HistoryEntry.mk other) := by
      rw [now]
      exact List.mem_append_right _ List.mem_cons_self
    rcases List.mem_map.mp replied with ⟨deed, done, same⟩
    cases same
    rcases reliable.coherent.settles_of_replied there acts done with ⟨rfl, settles⟩
    cases earlier with
    | nil =>
        rcases List.cons.inj now with ⟨-, rfl⟩
        exact ⟨by simp, by simp,
          .inr ⟨rfl, after, by simp [Fleet.replaced, inside], running, settles⟩⟩
    | cons entry earlier => simp at now
  rcases List.append_eq_append_iff.mp split with ⟨earlier, -, now⟩ | ⟨later, history, now⟩
  · exact fresh earlier now
  · cases later with
    | nil => exact fresh [] now.symm
    | cons first later =>
        rcases List.cons.inj now with ⟨rfl, rfl⟩
        have happened : later ⊆ fleet.history := by
          rw [history]
          exact fun entry member => List.mem_append_right _ (List.mem_cons_of_mem _ member)
        exact (once _ _ _ _ _ _ _ history).replaced reliable happened there steady acts running

theorem SettlesOnce.step {next : Fleet σ} {move : Move} (once : fleet.SettlesOnce)
    (reliable : fleet.Reliable origin) (steady : fleet.Steady move)
    (step : fleet.step? move = some next) : next.SettlesOnce := by
  have reliableAfter := reliable.step steady step
  cases steps_of_step? step with
  | passed =>
      intro before since index id payload event tx split
      exact { once _ _ _ _ _ _ _ split with }
  | batchLaunched =>
      intro before since index id payload event tx split
      exact (once _ _ _ _ _ _ _ split).joined _
  | @intakeLaunched listener raw =>
      intro before since index id payload event tx split
      have settled : (fleet.told listener raw).Settled index id tx since :=
        { once _ _ _ _ _ _ _ split with }
      exact settled.joined _
  | @acted index member after action store deeds there acts =>
      have inside : index < fleet.members.length := (List.getElem?_eq_some_iff.mp there).1
      have itself : (fleet.replaced index after store deeds).members[index]? = some after := by
        simp [Fleet.replaced, inside]
      exact once.replaced reliable there steady acts (reliableAfter.diligent _ _ itself).running

/-- After a submission that succeeded no other call for the redemption is made,
and the first write of its worker is the one that completes the record. The
clock does not pass the margin before. -/
theorem settled_once {clock : Nat} (sound : LawfulStore.Sound store)
    (run : Run Steady (initial store clock) fleet) {before since : List HistoryEntry}
    {payload : Bytes} {event : Event}
    (split : fleet.history =
      before ++ ⟨index, .replied id (.submit payload event) (some (.ok tx))⟩ :: since) :
    fleet.Settled index id tx since ∧
      ∀ member, fleet.members[index]? = some member → member.job.Settles id tx →
        fleet.clock + Duration.nanosecondsPerSecond ≤
          member.admittedAt + member.spent + member.job.margin.nanoseconds := by
  have both : fleet.Reliable (LawfulStore.record? store) ∧ fleet.SettlesOnce := by
    clear split
    induction run with
    | rest =>
        refine ⟨reliable_initial sound clock, ?_⟩
        intro before since index id payload event tx split
        exact absurd split (by simp [initial])
    | move move _ steady step both =>
        exact ⟨both.1.step steady step, both.2.step both.1 steady step⟩
  exact ⟨both.2 _ _ _ _ _ _ _ split, fun _ its settles => both.1.inTime_of_settles its settles⟩

/-- The submission takes all its time, and the worker a second less than its
margin to store the result, while another batch finds the record leased. -/
theorem settled_once_at_limit :
    ∃ (fleet : Fleet MemoryStore) (since : List HistoryEntry),
      fleet.Settled 2 "0xa1" "0xb2" since ∧
      (MemoryStore.find? fleet.store "0xa1").map (·.settlement) = some (some "0xb2") := by
  let moves : List Move :=
    Sample.arrival ++ [.launchBatch .attestation {} none] ++ Sample.claim 1 ++ [.act 1 .call] ++
      Sample.conclusion 1 Sample.attests ++
      [.launchBatch .settlement {} none] ++ Sample.claim 2 ++
      [.act 2 .call, .pass 120000000000,
        .act 2 (.hear Sample.settles), .pass 29000000000, .launchBatch .settlement {} none,
        .act 3 .proceed, .act 3 .proceed, .act 3 .proceed,
        .act 2 .proceed, .act 2 .proceed, .act 2 .proceed]
  have happened : ((initial ({} : MemoryStore) 0).follow? Steady moves).map (fun fleet =>
      ((MemoryStore.find? fleet.store "0xa1").map (·.settlement),
        fleet.history.filterMap fun entry => entry.deed.success?.map (entry.member, ·))) =
        some (some (some "0xb2"), [(2, "0xa1", "0xb2")]) := by
    decide +kernel
  rcases Option.map_eq_some_iff.mp happened with ⟨fleet, followed, seen⟩
  rcases Prod.mk.inj seen with ⟨stored, successes⟩
  have run : Run Steady (initial ({} : MemoryStore) 0) fleet := .of_follow? .rest followed
  have success := List.mem_of_mem_head? (List.head?_eq_some_iff.mpr ⟨_, successes⟩)
  rcases List.mem_filterMap.mp success with ⟨⟨index, deed⟩, inHistory, success⟩
  rcases List.append_of_mem inHistory with ⟨before, since, split⟩
  rcases Option.map_eq_some_iff.mp success with ⟨⟨id, tx⟩, success, same⟩
  cases same
  rcases Deed.eq_of_success? success with ⟨payload, event, rfl⟩
  exact ⟨fleet, since, (settled_once trivial run split).1, stored⟩

end Fleet

end RedemptionRelay
