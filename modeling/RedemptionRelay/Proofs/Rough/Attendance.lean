import RedemptionRelay.Proofs.Redemption.Budget
import RedemptionRelay.Proofs.Rough.Fate
import RedemptionRelay.Proofs.Store.Lawful

/-! # One record in a rough world

Whatever the weather, a batch brings upon a record that the store holds the fate
that the record, the moment and the weather decide, and leaves the other records
alone.
-/

namespace RedemptionRelay

/-- A batch of this phase can deal with the record to the end. -/
structure Phase.Handles (phase : Phase) (record : Redemption) : Prop where
  reads : phase.Reads record
  consistent : record.Consistent
  inRange : record.InRange
  /-- For the claim and the commit. -/
  room : record.version + 2 < Width.bound64
  named : record.event.sourceTxHash = record.id

/-- A record that has come about as it should and can be written so many times. -/
structure Redemption.Ready (writes : Nat) (record : Redemption) : Prop where
  consistent : record.Consistent
  inRange : record.InRange
  room : record.version + writes < Width.bound64
  named : record.event.sourceTxHash = record.id

theorem Redemption.Ready.handles {phase : Phase} {record : Redemption} (ready : record.Ready 2)
    (reads : phase.Reads record) : phase.Handles record where
  reads := reads
  consistent := ready.consistent
  inRange := ready.inRange
  room := ready.room
  named := ready.named

/-- One more failure of the record can be counted, should it be attempted. -/
def RetryPolicy.CanCount (policy : RetryPolicy) (record : Redemption) : Prop :=
  record.retryCount ≤ policy.maxRetries → record.retryCount + 1 < Width.bound32

theorem RetryPolicy.canCount {policy : RetryPolicy} {record : Redemption}
    (retriesFit : policy.maxRetries + 1 < Width.bound32) : policy.CanCount record :=
  fun retriesLeft => Nat.lt_of_le_of_lt (Nat.succ_le_succ retriesLeft) retriesFit

namespace Rough

variable {σ : Type} [Store σ]

/-! ## Time -/

variable {weather : Weather} {world : Rough σ} {policy : RetryPolicy} {phase : Phase}
  {record : Redemption} {mark : Mark} {outcome : Outcome}

omit [Store σ] in
theorem seconds_le {before after : Rough σ} (passes : before.clock ≤ after.clock) :
    before.seconds ≤ after.seconds :=
  Nat.div_le_div_right passes

theorem clock_answer (request : Request) :
    (answer weather world request).2.clock = weather.answered world.clock request := by
  unfold answer
  dsimp only
  split
  · rfl
  · cases request with
    | listRecords | readClock | perform | announce => rfl
    | create record =>
        dsimp only
        split <;> rfl
    | update record expected =>
        dsimp only
        split <;> rfl

theorem le_answer (weather : Weather) (world : Rough σ) (request : Request) :
    world.clock ≤ (answer weather world request).2.clock := by
  rw [clock_answer]
  exact Weather.le_answered ..

theorem le_commit {next : Redemption} :
    world.clock ≤ (Batch.commit (answer weather) next outcome world).2.clock := by
  have written := le_answer weather world (.update next next.version)
  unfold Batch.commit
  revert written
  rcases answer weather world (.update next next.version) with ⟨error | version, after⟩
  · exact id
  · intro written
    dsimp only
    split
    · exact Nat.le_trans written (le_answer ..)
    · exact written

theorem passes_conclude :
    ((world.elapse weather .readClock).elapse weather .readClock).clock ≤
      (Batch.conclude (answer weather) record mark outcome world).2.clock := by
  rw [Batch.conclude_eq, answer_readClock]
  dsimp only
  rw [answer_readClock]
  dsimp only
  split
  · exact Nat.le_refl _
  · exact le_commit

theorem le_conclude :
    world.clock ≤ (Batch.conclude (answer weather) record mark outcome world).2.clock :=
  Nat.le_trans (Nat.le_trans (Weather.le_answered ..) (Weather.le_answered ..)) passes_conclude

theorem le_carryOut {attempt : Attempt} :
    world.clock ≤ (Batch.carryOut (answer weather) policy record attempt world).2.clock := by
  unfold Batch.carryOut
  rw [answer_perform]
  refine Nat.le_trans ?_ le_conclude
  exact Weather.le_answered ..

theorem passes_pursue {leaseUntil : Nat} {attempt : Attempt} :
    (world.elapse weather .readClock).clock ≤
      (Batch.pursue (answer weather) policy record leaseUntil attempt world).2.clock := by
  rw [Batch.pursue_eq, answer_readClock]
  dsimp only
  have written := le_answer weather (world.elapse weather .readClock)
    (.update (record.claim leaseUntil (world.elapse weather .readClock).seconds) record.version)
  revert written
  rcases answer weather (world.elapse weather .readClock) _ with ⟨error | version, after⟩
  · exact id
  · exact fun written => Nat.le_trans written le_carryOut

theorem passes_attend :
    (world.elapse weather .readClock).clock ≤
      (Batch.attend (answer weather) phase policy record world).2.clock := by
  unfold Batch.attend
  rw [answer_readClock]
  dsimp only
  split
  · exact Nat.le_refl _
  · exact le_conclude
  · refine Nat.le_trans ?_ passes_pursue
    exact Weather.le_answered ..
  · exact Nat.le_refl _

/-! ## Fates -/

variable [LawfulStore σ]

/-- This fate has come to the record, and nothing to the others. -/
structure Befalls (before : Rough σ) (result : Option Outcome × Rough σ) (id : String)
    (fate : Fate) : Prop where
  outcome : result.1 = fate.outcome
  sound : LawfulStore.Sound result.2.store
  clock : result.2.clock = fate.clock
  deeds : result.2.deeds = before.deeds ++ fate.deeds
  records : ∀ other, LawfulStore.record? result.2.store other =
    if other = id then some fate.record else LawfulStore.record? before.store other

theorem record?_eq_ite {store : σ} {id : String}
    (current : LawfulStore.record? store id = some record) (other : String) :
    LawfulStore.record? store other =
      if other = id then some record else LawfulStore.record? store other := by
  split
  · next same => rw [same, current]
  · rfl

theorem befalls_untouched {id : String} {after : Rough σ} {deeds : List Deed}
    (outcome : Option Outcome) (sound : LawfulStore.Sound world.store)
    (current : LawfulStore.record? world.store id = some record)
    (sameStore : after.store = world.store) (done : after.deeds = world.deeds ++ deeds) :
    Befalls world (outcome, after) id ⟨outcome, record, deeds, after.clock⟩ where
  outcome := rfl
  sound := sameStore ▸ sound
  clock := rfl
  deeds := done
  records := by
    dsimp only
    rw [sameStore]
    exact record?_eq_ite current

theorem Befalls.after {between : Rough σ} {result : Option Outcome × Rough σ} {id : String}
    {fate : Fate} {deeds : List Deed} {replacement : Redemption}
    (befalls : Befalls between result id fate) (done : between.deeds = world.deeds ++ deeds)
    (records : ∀ other, LawfulStore.record? between.store other =
      if other = id then some replacement else LawfulStore.record? world.store other) :
    Befalls world result id { fate with deeds := deeds ++ fate.deeds } where
  outcome := befalls.outcome
  sound := befalls.sound
  clock := befalls.clock
  deeds := by rw [befalls.deeds, done, List.append_assoc]
  records other := by
    rw [befalls.records, records]
    split <;> rfl

theorem befalls_commit {next : Redemption} (outcome : Outcome)
    (sound : LawfulStore.Sound world.store)
    (current : LawfulStore.record? world.store record.id = some record)
    (request : next.SameRequest record) (version : next.version = record.version)
    (fits : { next with version := record.version + 1 }.InRange) :
    Befalls world ((Batch.commit (answer weather) next outcome world).map some id) record.id
      (weather.commit record next outcome world.clock) := by
  unfold Batch.commit Weather.commit
  dsimp only
  cases works : weather.fault? world.clock (.update next next.version) with
  | some error =>
      rw [answer_update_of_fault works]
      exact befalls_untouched _ sound current rfl rfl
  | none =>
      rcases LawfulStore.update_of_current sound fits (request.id ▸ current) request with
        ⟨store, lands, soundAfter, records⟩
      have replaced (other : String) : LawfulStore.record? store other =
          if other = record.id then some { next with version := next.version + 1 }
          else LawfulStore.record? world.store other := by
        rw [records, version, request.id]
      rw [← version] at lands
      rw [answer_update_of_ok works lands]
      dsimp only
      cases Batch.milestone? next outcome with
      | none => exact ⟨rfl, soundAfter, rfl, rfl, replaced⟩
      | some milestone =>
          dsimp only
          rw [answer_announce]
          exact ⟨rfl, soundAfter, rfl, List.append_assoc .., replaced⟩

theorem befalls_conclude (sound : LawfulStore.Sound world.store)
    (current : LawfulStore.record? world.store record.id = some record)
    (inRange : record.InRange) (noLease : mark.lease? = none)
    (retriesFit : mark.retries record.retryCount < Width.bound32)
    (room : record.version + 1 < Width.bound64)
    (inTime : (Batch.conclude (answer weather) record mark outcome world).2.seconds <
      Width.bound64) :
    Befalls world ((Batch.conclude (answer weather) record mark outcome world).map some id)
      record.id (weather.conclusion record mark outcome world.clock) := by
  let marked := world.elapse weather .readClock
  let logged := marked.elapse weather .readClock
  have loggedFits : logged.seconds < Width.bound64 :=
    Nat.lt_of_le_of_lt (seconds_le passes_conclude) inTime
  have markedFits : marked.seconds < Width.bound64 :=
    Nat.lt_of_le_of_lt (seconds_le (Weather.le_answered ..)) loggedFits
  clear inTime
  rw [Batch.conclude_eq, answer_readClock]
  dsimp only
  rw [answer_readClock]
  unfold Weather.conclusion
  dsimp only
  have sameMoments : record.apply mark (Weather.secondOf (weather.answered world.clock .readClock))
      (Weather.secondOf (weather.answered (weather.answered world.clock .readClock) .readClock)) =
        record.apply mark marked.seconds logged.seconds := rfl
  rw [sameMoments]
  cases applied : record.apply mark marked.seconds logged.seconds with
  | error error =>
      exact befalls_untouched _ sound current rfl (List.append_nil _).symm
  | ok next =>
      have fits : { next with version := record.version + 1 }.InRange :=
        (Redemption.inRange_of_apply inRange markedFits loggedFits (by rw [noLease]; exact nofun)
          retriesFit applied).withVersion room
      have commits : Befalls logged _ _ (weather.commit record next outcome logged.clock) :=
        befalls_commit outcome sound current (Redemption.sameRequest_of_apply applied)
          (Redemption.version_of_apply applied) fits
      have nothing : logged.deeds = world.deeds ++ [] := (List.append_nil _).symm
      exact commits.after nothing (record?_eq_ite current)

theorem befalls_carryOut {attempt : Attempt} (sound : LawfulStore.Sound world.store)
    (current : LawfulStore.record? world.store record.id = some record)
    (inRange : record.InRange) (retriesFit : record.retryCount + 1 < Width.bound32)
    (room : record.version + 1 < Width.bound64)
    (inTime : (Batch.carryOut (answer weather) policy record attempt world).2.seconds <
      Width.bound64) :
    Befalls world ((Batch.carryOut (answer weather) policy record attempt world).map some id)
      record.id (weather.errand policy record attempt world.clock) := by
  unfold Batch.carryOut at inTime ⊢
  rw [answer_perform] at inTime ⊢
  let reply := weather.reply world.clock attempt.call
  let concluded := policy.conclude record attempt.started attempt.call reply
  let called := (world.elapse weather (.perform attempt.call attempt.limit)).doing
    [.called attempt.call.subject attempt.call,
      .replied attempt.call.subject attempt.call reply]
  have ended : Befalls called
      ((Batch.conclude (answer weather) record concluded.1 concluded.2 called).map some id)
      record.id (weather.conclusion record concluded.1 concluded.2 called.clock) :=
    befalls_conclude sound current inRange RetryPolicy.lease?_conclude
      (Nat.lt_of_le_of_lt (Mark.retries_le ..) retriesFit) room inTime
  exact ended.after rfl (record?_eq_ite current)

theorem befalls_pursue {leaseUntil : Nat} {attempt : Attempt}
    (sound : LawfulStore.Sound world.store)
    (current : LawfulStore.record? world.store record.id = some record)
    (inRange : record.InRange) (retriesFit : record.retryCount + 1 < Width.bound32)
    (room : record.version + 2 < Width.bound64) (leaseFits : leaseUntil < Width.bound64)
    (inTime : (Batch.pursue (answer weather) policy record leaseUntil attempt world).2.seconds <
      Width.bound64) :
    Befalls world
      ((Batch.pursue (answer weather) policy record leaseUntil attempt world).map some id)
      record.id (weather.pursuit policy record leaseUntil attempt world.clock) := by
  let claiming := world.elapse weather .readClock
  let claim := weather.claim record leaseUntil world.clock
  have claimingFits : claiming.seconds < Width.bound64 :=
    Nat.lt_of_le_of_lt (seconds_le passes_pursue) inTime
  have claimFits : { claim with version := record.version + 1 }.InRange :=
    Redemption.inRange_claim inRange claimingFits leaseFits (Nat.lt_of_succ_lt room)
  rw [Batch.pursue_eq, answer_readClock] at inTime ⊢
  dsimp only at inTime ⊢
  rw [show record.claim leaseUntil (world.elapse weather .readClock).seconds = claim from rfl]
    at inTime ⊢
  cases works : weather.fault? claiming.clock (.update claim record.version) with
  | some error =>
      rw [show answer weather (world.elapse weather .readClock) (.update claim record.version) = _
        from answer_update_of_fault works, Weather.pursuit_of_fault works]
      exact befalls_untouched _ sound current rfl rfl
  | none =>
      have request : claim.SameRequest record := ⟨rfl, rfl, rfl, rfl⟩
      rcases LawfulStore.update_of_current sound claimFits (request.id ▸ current) request with
        ⟨store, lands, soundAfter, records⟩
      rw [show answer weather (world.elapse weather .readClock) (.update claim record.version) = _
        from answer_update_of_ok works lands] at inTime ⊢
      rw [Weather.pursuit_of_ok works]
      let claimed := { claim with version := record.version + 1 }
      let written := ((claiming.elapse weather (.update claim record.version)).holding store).doing
        [.stored claimed]
      have carried : Befalls written
          ((Batch.carryOut (answer weather) policy claimed attempt written).map some id)
          record.id (weather.errand policy claimed attempt written.clock) :=
        befalls_carryOut soundAfter ((records _).trans (if_pos rfl)) claimFits retriesFit room
          inTime
      exact carried.after rfl records

omit [LawfulStore σ] in
theorem attend_of_decide {decision : Decision} :
    policy.decide phase record (world.elapse weather .readClock).seconds = decision →
    Batch.attend (answer weather) phase policy record world =
      let started := world.elapse weather .readClock
      match decision with
      | .skip reason => (some (.skipped reason), started)
      | .abandon error =>
          (Batch.conclude (answer weather) record (.failed error) .failed started).map some id
      | .attempt call limit leaseUntil =>
          (Batch.pursue (answer weather) policy record leaseUntil ⟨call, limit, started.seconds⟩
            started).map some id
      | .overflow => (none, started) := by
  intro decided
  unfold Batch.attend
  rw [answer_readClock]
  dsimp only
  cases decision <;> rw [decided]

theorem befalls_attend_of_attempt {call : Call} {limit : Duration} {leaseUntil : Nat}
    (sound : LawfulStore.Sound world.store)
    (current : LawfulStore.record? world.store record.id = some record)
    (inRange : record.InRange) (retriesFit : record.retryCount + 1 < Width.bound32)
    (room : record.version + 2 < Width.bound64)
    (decided : policy.decide phase record (world.elapse weather .readClock).seconds =
      .attempt call limit leaseUntil)
    (inTime : (Batch.attend (answer weather) phase policy record world).2.seconds <
      Width.bound64) :
    Befalls world (Batch.attend (answer weather) phase policy record world) record.id
      (weather.fate phase policy record world.clock) := by
  let started := world.elapse weather .readClock
  have nothing : started.deeds = world.deeds ++ [] := (List.append_nil _).symm
  have leaseFits : leaseUntil < Width.bound64 :=
    Redemption.lt_bound64_of_le_maxTime (RetryPolicy.leaseUntil_le_of_decide decided)
  rw [attend_of_decide decided] at inTime ⊢
  rw [Weather.fate_of_decide decided]
  have pursued : Befalls started _ record.id
      (weather.pursuit policy record leaseUntil ⟨call, limit, started.seconds⟩ started.clock) :=
    befalls_pursue sound current inRange retriesFit room leaseFits inTime
  exact pursued.after nothing (record?_eq_ite current)

theorem befalls_attend (sound : LawfulStore.Sound world.store)
    (current : LawfulStore.record? world.store record.id = some record)
    (handles : phase.Handles record) (canCount : policy.CanCount record)
    (inTime : (Batch.attend (answer weather) phase policy record world).2.seconds <
      Width.bound64) :
    Befalls world (Batch.attend (answer weather) phase policy record world) record.id
      (weather.fate phase policy record world.clock) := by
  let started := world.elapse weather .readClock
  have nothing : started.deeds = world.deeds ++ [] := (List.append_nil _).symm
  cases decided : policy.decide phase record started.seconds with
  | skip reason =>
      rw [attend_of_decide decided, Weather.fate_of_decide decided]
      exact befalls_untouched _ sound current rfl nothing
  | overflow =>
      rw [attend_of_decide decided, Weather.fate_of_decide decided]
      exact befalls_untouched _ sound current rfl nothing
  | abandon error =>
      rw [attend_of_decide decided] at inTime ⊢
      rw [Weather.fate_of_decide decided]
      have concluded : Befalls started _ record.id
          (weather.conclusion record (.failed error) .failed started.clock) :=
        befalls_conclude sound current handles.inRange rfl handles.inRange.2.1
          (Nat.lt_of_succ_lt handles.room) inTime
      exact concluded.after nothing (record?_eq_ite current)
  | attempt call limit leaseUntil =>
      have retriesLeft : record.retryCount ≤ policy.maxRetries :=
        RetryPolicy.retryCount_le_of_reads handles.consistent handles.reads
          (RetryPolicy.attempts_of_decide decided).retriesLeft
      exact befalls_attend_of_attempt sound current handles.inRange (canCount retriesLeft)
        handles.room decided inTime

end Rough

end RedemptionRelay
