import Mathlib.Data.Set.Card
import RedemptionRelay.Proofs.Rough.Isolation

/-! # What a batch reports

The summary of a batch agrees with the store. A success is a record that has
reached the goal of the phase. A failure is one that has been stored on the
record, or a write about it that was turned down for anything but its version.
All other records that were read stand as they did.
-/

namespace RedemptionRelay

/-! ## What can become of a record -/

def Phase.goal : Phase → Status
  | .attestation => .fetched
  | .settlement => .completed

/-- The same progress, the same failures and the same attestation. -/
structure Redemption.SameStanding (left right : Redemption) : Prop where
  status : left.status = right.status
  retryCount : left.retryCount = right.retryCount
  error : left.error = right.error
  payload : left.payload = right.payload

theorem Redemption.SameStanding.trans {first second third : Redemption}
    (left : first.SameStanding second) (right : second.SameStanding third) :
    first.SameStanding third :=
  ⟨left.status.trans right.status, left.retryCount.trans right.retryCount,
    left.error.trans right.error, left.payload.trans right.payload⟩

def StoreError.isConflict : StoreError → Bool
  | .versionConflict _ _ => true
  | _ => false

/-- No reason makes a difference to what is counted. -/
def Outcome.isSkipped : Outcome → Bool
  | .skipped _ => true
  | _ => false

/-- A write about the redemption was turned down for anything but its version. -/
def Broken (deeds : List Deed) (id : String) : Prop :=
  ∃ record error, .refused record error ∈ deeds ∧ record.id = id ∧ error.isConflict = false

namespace Phase

def Advances (phase : Phase) (earlier later : Redemption) : Prop :=
  earlier.status ≠ phase.goal ∧ later.status = phase.goal

def Fails (phase : Phase) (earlier later : Redemption) : Prop :=
  (later.status = phase.retrying ∧ later.retryCount = earlier.retryCount + 1) ∨
    (earlier.status ≠ .failed ∧ later.status = .failed)

/-- What an outcome says of the record before the batch and after it, and of its
writes. -/
inductive Tells (phase : Phase) (earlier later : Redemption) (lost : Prop) : Outcome → Prop where
  | advanced (advances : phase.Advances earlier later) (intact : ¬ lost) :
      Tells phase earlier later lost .advanced
  | failed (fails : phase.Fails earlier later) (intact : ¬ lost) :
      Tells phase earlier later lost .failed
  | broken (stands : later.SameStanding earlier) (broken : lost) :
      Tells phase earlier later lost .failed
  | skipped {reason : SkipReason} (stands : later.SameStanding earlier) (intact : ¬ lost) :
      Tells phase earlier later lost (.skipped reason)

/-- The outcomes that go with the changes of this phase. -/
inductive Rules (phase : Phase) : Mark → Outcome → Prop where
  | advanced {mark : Mark} (goes : mark.target? = some phase.goal) : Rules phase mark .advanced
  | retried {mark : Mark} (goes : mark.target? = some phase.retrying) : Rules phase mark .failed
  | ended {error : String} : Rules phase (.failed error) .failed
  | left {reason : SkipReason} : Rules phase .release (.skipped reason)

variable {phase : Phase} {record earlier later : Redemption} {lost : Prop} {mark : Mark}
  {outcome : Outcome} {now logged : Nat}

/-! ## Outcomes tell apart what they count -/

theorem not_advances_of_fails (fails : phase.Fails earlier later) :
    ¬ phase.Advances earlier later := by
  rintro ⟨-, reached⟩
  rcases fails with ⟨retrying, -⟩ | ⟨-, ended⟩
  · rw [reached] at retrying
    cases phase <;> cases retrying
  · rw [reached] at ended
    cases phase <;> cases ended

theorem not_advances_of_stands (stands : later.SameStanding earlier) :
    ¬ phase.Advances earlier later :=
  fun advances => advances.1 (stands.status.symm.trans advances.2)

theorem not_fails_of_stands (stands : later.SameStanding earlier) :
    ¬ phase.Fails earlier later := by
  rintro (⟨-, more⟩ | ⟨before, after⟩)
  · rw [stands.retryCount] at more
    omega
  · exact before (stands.status.symm.trans after)

namespace Tells

variable (tells : phase.Tells earlier later lost outcome)
include tells

theorem advances_iff : phase.Advances earlier later ↔ outcome = .advanced := by
  cases tells with
  | advanced advances => exact iff_of_true advances rfl
  | failed fails => exact iff_of_false (not_advances_of_fails fails) nofun
  | broken stands | skipped stands => exact iff_of_false (not_advances_of_stands stands) nofun

theorem fails_or_lost_iff : phase.Fails earlier later ∨ lost ↔ outcome = .failed := by
  cases tells with
  | advanced advances intact =>
      refine iff_of_false (not_or.mpr ⟨fun fails => ?_, intact⟩) nofun
      exact not_advances_of_fails fails advances
  | failed fails => exact iff_of_true (.inl fails) rfl
  | broken _ broken => exact iff_of_true (.inr broken) rfl
  | skipped stands intact =>
      exact iff_of_false (not_or.mpr ⟨not_fails_of_stands stands, intact⟩) nofun

/-- Nothing is counted as two failures. -/
theorem intact_of_fails (fails : phase.Fails earlier later) : ¬ lost := by
  cases tells with
  | broken stands => exact absurd fails (not_fails_of_stands stands)
  | advanced _ intact | failed _ intact | skipped _ intact => exact intact

theorem stands_of_isSkipped (skipped : outcome.isSkipped = true) :
    later.SameStanding earlier := by
  cases tells with
  | skipped stands => exact stands
  | advanced | failed | broken => cases skipped

theorem of_sameStanding {record : Redemption} (stands : earlier.SameStanding record) :
    phase.Tells record later lost outcome := by
  cases tells with
  | advanced advances intact => exact .advanced ⟨stands.status ▸ advances.1, advances.2⟩ intact
  | failed fails intact =>
      unfold Fails at fails
      rw [stands.retryCount, stands.status] at fails
      exact .failed fails intact
  | broken kept broken => exact .broken (kept.trans stands) broken
  | skipped kept intact => exact .skipped (kept.trans stands) intact

end Tells

/-! ## Changes -/

theorem Reads.status_ne_goal (reads : phase.Reads record) : record.status ≠ phase.goal := by
  rcases reads with status | status <;> rw [status] <;> cases phase <;> nofun

theorem Rules.edge (rules : phase.Rules mark outcome) (reads : phase.Reads record) :
    ∀ target ∈ mark.target?, record.status.canBecome target = true := by
  cases rules with
  | advanced goes =>
      rw [goes]
      rintro target ⟨⟩
      rcases reads with status | status <;> rw [status] <;> cases phase <;> rfl
  | retried goes =>
      rw [goes]
      rintro target ⟨⟩
      rcases reads with status | status <;> rw [status] <;> cases phase <;> rfl
  | ended =>
      rintro target ⟨⟩
      exact reads.canFail
  | left => exact nofun

theorem retries_of_retrying (goes : mark.target? = some phase.retrying) (before : Nat) :
    mark.retries before = before + 1 := by
  cases phase <;> cases mark <;> cases goes <;> rfl

theorem Rules.tells {next : Redemption} (rules : phase.Rules mark outcome)
    (reads : phase.Reads record) (changed : record.apply mark now logged = .ok next)
    (intact : ¬ lost) (version : Nat) :
    phase.Tells record { next with version := version } lost outcome := by
  have status := Redemption.status_of_apply changed
  have traces := Redemption.traces_of_apply changed
  cases rules with
  | advanced goes =>
      rw [goes] at status
      exact .advanced ⟨reads.status_ne_goal, status.2⟩ intact
  | retried goes =>
      rw [goes] at status
      have retries := traces.retries.trans (retries_of_retrying goes _)
      exact .failed (.inl ⟨status.2, retries⟩) intact
  | ended =>
      have alive : record.status ≠ .failed := by
        intro failed
        have alive := reads.alive
        rw [failed] at alive
        cases alive
      exact .failed (.inr ⟨alive, status.2⟩) intact
  | left =>
      cases changed
      exact .skipped ⟨rfl, rfl, rfl, rfl⟩ intact

theorem rules_conclude (policy : RetryPolicy) (claimed : Redemption) (started : Nat) {call : Call}
    (reply : Option call.Reply) (isCall : RetryPolicy.call? phase record = some call) :
    phase.Rules (policy.conclude claimed started call reply).1
      (policy.conclude claimed started call reply).2 := by
  cases phase with
  | attestation =>
      cases isCall
      dsimp only [RetryPolicy.conclude]
      unfold RetryPolicy.concludeFetch
      split
      · exact .retried rfl
      · exact .retried rfl
      · exact .advanced rfl
      · exact .ended
      · split
        · exact .retried rfl
        · exact .left
  | settlement =>
      rcases Option.map_eq_some_iff.mp isCall with ⟨payload, -, rfl⟩
      dsimp only [RetryPolicy.conclude]
      unfold RetryPolicy.concludeSubmit
      split
      · exact .retried rfl
      · exact .advanced rfl
      · split
        · exact .ended
        · exact .retried rfl

end Phase

/-! ## Fates -/

theorem broken_append {first second : List Deed} {id : String} :
    Broken (first ++ second) id ↔ Broken first id ∨ Broken second id := by
  unfold Broken
  simp only [List.mem_append, or_and_right, exists_or]

theorem not_broken_of_forall {deeds : List Deed} {id : String}
    (none : ∀ record error, .refused record error ∉ deeds) : ¬ Broken deeds id := by
  rintro ⟨record, error, refused, -⟩
  exact none record error refused

theorem not_broken_of_subject {deeds : List Deed} {id : String}
    (others : ∀ deed ∈ deeds, deed.subject ≠ id) : ¬ Broken deeds id := by
  rintro ⟨record, error, refused, isSubject, -⟩
  exact others _ refused isSubject

/-- The outcome says what becomes of the record. -/
def Fate.Reports (phase : Phase) (record : Redemption) (fate : Fate) : Prop :=
  ∀ outcome ∈ fate.outcome, phase.Tells record fate.record (Broken fate.deeds record.id) outcome

theorem tells_loss {phase : Phase} {record refusal : Redemption} {error : StoreError}
    (sameId : refusal.id = record.id) :
    phase.Tells record record (Broken [.refused refusal error] record.id) (Batch.loss error) := by
  have stands : record.SameStanding record := ⟨rfl, rfl, rfl, rfl⟩
  have broken_iff : Broken [.refused refusal error] record.id ↔ error.isConflict = false := by
    unfold Broken
    constructor
    · rintro ⟨other, reason, among, -, isBreak⟩
      cases List.mem_singleton.mp among
      exact isBreak
    · exact fun isBreak => ⟨refusal, error, List.mem_singleton_self _, sameId, isBreak⟩
  rw [broken_iff]
  cases error with
  | versionConflict => exact .skipped stands nofun
  | notFound | database | invalidData | connection => exact .broken stands rfl

/-- What comes of a record after deeds that are no refusals tells of the record
before them. -/
theorem Fate.Reports.after {phase : Phase} {record claimed : Redemption} {fate : Fate}
    (reports : fate.Reports phase claimed) (stands : claimed.SameStanding record)
    (sameId : claimed.id = record.id) {deeds : List Deed}
    (quiet : ∀ refusal error, .refused refusal error ∉ deeds) :
    Fate.Reports phase record { fate with deeds := deeds ++ fate.deeds } := by
  intro outcome isOutcome
  have tells := (reports outcome isOutcome).of_sameStanding stands
  have broken_iff : Broken (deeds ++ fate.deeds) record.id ↔ Broken fate.deeds record.id := by
    rw [broken_append]
    exact or_iff_right (not_broken_of_forall quiet)
  rw [sameId] at tells
  show phase.Tells record fate.record (Broken (deeds ++ fate.deeds) record.id) outcome
  rw [broken_iff]
  exact tells

namespace Weather

variable {weather : Weather} {policy : RetryPolicy} {phase : Phase} {record : Redemption}
  {mark : Mark} {outcome : Outcome} {moment : Nat}

theorem reports_commit {next : Redemption} {now logged : Nat} (rules : phase.Rules mark outcome)
    (reads : phase.Reads record) (changed : record.apply mark now logged = .ok next) :
    (weather.commit record next outcome moment).Reports phase record := by
  have sameId := (Redemption.sameRequest_of_apply changed).id
  unfold commit
  dsimp only
  split
  · rintro told ⟨⟩
    exact tells_loss sameId
  · split
    · rintro told ⟨⟩
      exact rules.tells reads changed (not_broken_of_forall (by simp)) _
    · rintro told ⟨⟩
      exact rules.tells reads changed (not_broken_of_forall (by simp)) _

theorem reports_conclusion (rules : phase.Rules mark outcome) (reads : phase.Reads record) :
    (weather.conclusion record mark outcome moment).Reports phase record := by
  unfold conclusion
  dsimp only
  split
  · next unchanged =>
      rcases Redemption.exists_apply_of_canBecome (rules.edge reads) with ⟨next, changed⟩
      cases unchanged.symm.trans changed
  · next next changed => exact reports_commit rules reads changed

theorem reports_errand {claimed : Redemption} {attempt : Attempt} (reads : phase.Reads claimed)
    (isCall : RetryPolicy.call? phase record = some attempt.call) :
    (weather.errand policy claimed attempt moment).Reports phase claimed := by
  have rules : phase.Rules _ _ := Phase.rules_conclude policy claimed attempt.started
    (weather.reply moment attempt.call) isCall
  exact Fate.Reports.after (reports_conclusion rules reads) ⟨rfl, rfl, rfl, rfl⟩ rfl (by simp)

theorem reports_pursuit {attempt : Attempt} {leaseUntil : Nat} (reads : phase.Reads record)
    (isCall : RetryPolicy.call? phase record = some attempt.call) :
    (weather.pursuit policy record leaseUntil attempt moment).Reports phase record := by
  let claim := weather.claim record leaseUntil moment
  cases works : weather.fault? (weather.answered moment .readClock)
      (.update claim record.version) with
  | some error =>
      rw [pursuit_of_fault works]
      rintro told ⟨⟩
      exact tells_loss rfl
  | none =>
      rw [pursuit_of_ok works]
      let claimed := { claim with version := record.version + 1 }
      have stands : claimed.SameStanding record := ⟨rfl, rfl, rfl, rfl⟩
      have readsClaimed : phase.Reads claimed := reads
      exact Fate.Reports.after (reports_errand readsClaimed isCall) stands rfl (by simp)

theorem reports_fate (reads : phase.Reads record) :
    (weather.fate phase policy record moment).Reports phase record := by
  let started := weather.answered moment .readClock
  cases decided : policy.decide phase record (secondOf started) with
  | skip reason =>
      rw [fate_of_decide decided]
      rintro told ⟨⟩
      exact .skipped ⟨rfl, rfl, rfl, rfl⟩ (not_broken_of_forall (by simp [sequel]))
  | overflow =>
      rw [fate_of_decide decided]
      exact nofun
  | abandon error =>
      rw [fate_of_decide decided]
      exact reports_conclusion .ended reads
  | attempt call limit leaseUntil =>
      rw [fate_of_decide decided]
      exact reports_pursuit reads (RetryPolicy.attempts_of_decide decided).isCall

end Weather

/-! ## Counting -/

theorem Summary.foldl_count (summary : Summary) (outcomes : List Outcome) :
    outcomes.foldl count summary =
      { succeeded := summary.succeeded + outcomes.countP (· = .advanced)
        failed := summary.failed + outcomes.countP (· = .failed)
        skipped := summary.skipped + outcomes.countP Outcome.isSkipped } := by
  induction outcomes generalizing summary with
  | nil => rfl
  | cons outcome outcomes induction =>
      rw [List.foldl_cons, induction]
      cases outcome <;> simp [count, List.countP_cons, Outcome.isSkipped] <;> omega

theorem Summary.isSkipped_of_idle {outcomes : List Outcome}
    (idle : (outcomes.foldl count {}).hasActivity = false) :
    ∀ outcome ∈ outcomes, outcome.isSkipped = true := by
  rw [foldl_count] at idle
  simp only [hasActivity, gt_iff_lt, Nat.zero_add, Bool.or_eq_false_iff, decide_eq_false_iff_not,
    Nat.not_lt, Nat.le_zero, List.countP_eq_zero, decide_eq_true_eq] at idle
  intro outcome among
  cases outcome with
  | advanced => exact absurd rfl (idle.1 _ among)
  | failed => exact absurd rfl (idle.2 _ among)
  | skipped reason => rfl

theorem encard_of_told {queue : List Redemption} {outcomes : List Outcome} {ids : Set String}
    {means : Outcome → Bool} (distinct : (queue.map (·.id)).Nodup)
    (within : ∀ id ∈ ids, id ∈ queue.map (·.id))
    (told : List.Forall₂ (fun record outcome => record.id ∈ ids ↔ means outcome = true) queue
      outcomes) :
    ids.encard = outcomes.countP means := by
  classical
  have listed : ids = ↑((queue.map (·.id)).filter (· ∈ ids)).toFinset := by
    ext id
    rw [List.coe_toFinset, Set.mem_ofPred_eq, List.mem_filter, decide_eq_true_eq]
    exact ⟨fun among => ⟨within id among, among⟩, And.right⟩
  have counted : (queue.map (·.id)).countP (· ∈ ids) = outcomes.countP means := by
    clear listed within distinct
    induction told with
    | nil => rfl
    | cons means_iff _ induction =>
        rw [List.map_cons, List.countP_cons, List.countP_cons, induction]
        simp only [decide_eq_true_eq, means_iff]
  rw [listed, Set.encard_coe_eq_coe_finsetCard, List.toFinset_card_of_nodup (distinct.filter _),
    ← List.countP_eq_length_filter, counted]

namespace Rough

variable {σ : Type} [Store σ] [LawfulStore σ] {weather : Weather} {world after last : Rough σ}
  {policy : RetryPolicy} {phase : Phase} {chain : Option String} {record : Redemption}
  {queue : List Redemption} {summary : Summary} {outcome : Outcome} {outcomes : List Outcome}
  {deeds : List Deed}

/-- The outcomes say what has become of the records in the queue, and nothing
has become of others. -/
structure Told (phase : Phase) (queue : List Redemption) (before after : Rough σ)
    (outcomes : List Outcome) (deeds : List Deed) : Prop where
  done : after.deeds = before.deeds ++ deeds
  about : ∀ deed ∈ deeds, deed.subject ∈ queue.map (·.id)
  others : ∀ id, id ∉ queue.map (·.id) →
    LawfulStore.record? after.store id = LawfulStore.record? before.store id
  told : List.Forall₂
    (fun record outcome => ∃ later, LawfulStore.record? after.store record.id = some later ∧
      phase.Tells record later (Broken deeds record.id) outcome) queue outcomes

theorem Told.cons {fate : Fate} (told : Told phase queue after last outcomes deeds)
    (befalls : Befalls world (some outcome, after) record.id fate)
    (reports : fate.Reports phase record)
    (subjects : ∀ deed ∈ fate.deeds, deed.subject = record.id)
    (distinct : record.id ∉ queue.map (·.id)) :
    Told phase (record :: queue) world last (outcome :: outcomes) (fate.deeds ++ deeds) := by
  have aside : ¬ Broken deeds record.id :=
    not_broken_of_subject fun deed among same => distinct (same ▸ told.about deed among)
  refine ⟨?_, ?_, ?_, .cons ?_ ?_⟩
  · rw [told.done, befalls.deeds, List.append_assoc]
  · intro deed among
    rw [List.map_cons]
    rcases List.mem_append.mp among with here | behind
    · exact List.mem_cons.mpr (.inl (subjects deed here))
    · exact List.mem_cons_of_mem _ (told.about deed behind)
  · intro id absent
    rw [List.map_cons, List.mem_cons, not_or] at absent
    exact (told.others id absent.2).trans ((befalls.records id).trans (if_neg absent.1))
  · refine ⟨fate.record, ?_, ?_⟩
    · exact (told.others _ distinct).trans ((befalls.records _).trans (if_pos rfl))
    · rw [broken_append, or_iff_left aside]
      exact reports outcome befalls.outcome.symm
  · have queued := (List.forall₂_and_left queue outcomes).mpr ⟨fun _ among => among, told.told⟩
    refine queued.imp ?_
    rintro other result ⟨among, later, stored, tells⟩
    have aside : ¬ Broken fate.deeds other.id := not_broken_of_subject fun deed done same =>
      distinct (List.mem_map.mpr ⟨other, among, same.symm.trans (subjects deed done)⟩)
    refine ⟨later, stored, ?_⟩
    rw [broken_append, or_iff_right aside]
    exact tells

/-- A batch that has come to its end tells of every record in the queue; it only
breaks off where a lease would have ended too late. -/
theorem told_attendAll (queued : Queued phase queue world)
    (canCount : ∀ record ∈ queue, policy.CanCount record)
    (inTime : (Batch.attendAll (answer weather) phase policy summary queue world).2.seconds <
      Width.bound64) :
    let result := Batch.attendAll (answer weather) phase policy summary queue world
    (result.1 = .overflow ∧ ¬ InTime policy phase result.2) ∨
      ∃ outcomes deeds, result.1 = .summary (outcomes.foldl Summary.count summary) ∧
        Told phase queue world result.2 outcomes deeds := by
  dsimp only
  induction queue generalizing world summary with
  | nil =>
      rw [Batch.attendAll]
      refine .inr ⟨[], [], rfl, ?_⟩
      exact ⟨(List.append_nil _).symm, List.forall_mem_nil _, fun _ _ => rfl, .nil⟩
  | cons record queue induction =>
      rcases attendAll_first queued (canCount record List.mem_cons_self) inTime with
        ⟨ended, after, attended, befalls, behind⟩
      rw [Batch.attendAll, attended] at inTime ⊢
      cases ended with
      | none => exact .inl ⟨rfl, befalls.late attended⟩
      | some outcome =>
          have later : ∀ other ∈ queue, policy.CanCount other :=
            fun other among => canCount other (List.mem_cons_of_mem _ among)
          have handles := queued.handles record List.mem_cons_self
          rcases induction behind later inTime with late | ⟨outcomes, deeds, isSummary, told⟩
          · exact .inl late
          · refine .inr ⟨outcome :: outcomes, _, isSummary, told.cons befalls ?_ ?_ ?_⟩
            · exact Weather.reports_fate handles.reads
            · exact fun deed => Weather.subject_of_fate handles.named
            · exact (List.nodup_cons.mp queued.distinct).1

/-! ## The account -/

section

variable {before last : σ}

def changed (before after : σ) (Changes : Redemption → Redemption → Prop) : Set String :=
  {id | ∃ earlier ∈ LawfulStore.record? before id, ∃ later ∈ LawfulStore.record? after id,
    Changes earlier later}

def attendedTo (phase : Phase) (chain : Option String) (before : σ) : Set String :=
  {id | ∃ record ∈ LawfulStore.record? before id,
    phase.Reads record ∧ matchesChain chain record.chain = true}

/-- The redemptions that a batch reads, and that are neither successes nor failures. -/
def passedOver (phase : Phase) (chain : Option String) (before after : σ) (deeds : List Deed) :
    Set String :=
  attendedTo phase chain before \ (changed before after phase.Advances ∪
    (changed before after phase.Fails ∪ {id | Broken deeds id}))

/-- What a summary says of the store before the batch and the store after it. -/
structure Accounts (phase : Phase) (chain : Option String) (before after : σ) (deeds : List Deed)
    (summary : Summary) : Prop where
  succeeded : (changed before after phase.Advances).encard = summary.succeeded
  failed : (changed before after phase.Fails).encard + {id | Broken deeds id}.encard =
    summary.failed
  skipped : (passedOver phase chain before after deeds).encard = summary.skipped
  stands : ∀ id ∈ passedOver phase chain before after deeds,
    ∃ earlier ∈ LawfulStore.record? before id, ∃ later ∈ LawfulStore.record? after id,
      later.SameStanding earlier
  others : ∀ id, id ∉ attendedTo phase chain before →
    LawfulStore.record? after id = LawfulStore.record? before id
  /-- Without activity no status and no count of attempts has changed. -/
  idle : summary.hasActivity = false → ∀ id,
    (LawfulStore.record? after id).map (fun record => (record.status, record.retryCount)) =
      (LawfulStore.record? before id).map fun record => (record.status, record.retryCount)

theorem mem_attendedTo (sound : LawfulStore.Sound before) (id : String) :
    id ∈ attendedTo phase chain before ↔ id ∈ (phase.reading chain before).map (·.id) := by
  rw [List.mem_map]
  constructor
  · rintro ⟨record, found, reads, ofChain⟩
    have sameId := LawfulStore.id_of_record? sound found
    subst sameId
    exact ⟨record, (Phase.mem_reading sound).mpr ⟨found, reads, ofChain⟩, rfl⟩
  · rintro ⟨record, among, rfl⟩
    rcases (Phase.mem_reading sound).mp among with ⟨found, reads, ofChain⟩
    exact ⟨record, found, reads, ofChain⟩

theorem mem_queue_of_changed {Changes : Redemption → Redemption → Prop} {id : String}
    (same : id ∉ queue.map (·.id) → LawfulStore.record? last id = LawfulStore.record? before id)
    (irreflexive : ∀ record, ¬ Changes record record)
    (isChanged : id ∈ changed before last Changes) : id ∈ queue.map (·.id) := by
  by_contra absent
  rcases isChanged with ⟨earlier, foundEarlier, later, foundLater, changes⟩
  rw [same absent, foundEarlier] at foundLater
  cases foundLater
  exact irreflexive earlier changes

theorem mem_changed_iff {Changes : Redemption → Redemption → Prop} {id : String}
    {later : Redemption} (current : LawfulStore.record? before id = some record)
    (stored : LawfulStore.record? last id = some later) :
    id ∈ changed before last Changes ↔ Changes record later := by
  constructor
  · rintro ⟨earlier, foundEarlier, other, foundLater, changes⟩
    rw [current] at foundEarlier
    rw [stored] at foundLater
    cases foundEarlier
    cases foundLater
    exact changes
  · exact fun changes => ⟨record, current, later, stored, changes⟩

end

theorem exists_told {α β : Type} {Tells : α → β → Prop} {left : List α} {right : List β}
    (told : List.Forall₂ Tells left right) {item : α} (among : item ∈ left) :
    ∃ other ∈ right, Tells item other := by
  induction told with
  | nil => cases among
  | @cons _ other _ _ tells _ induction =>
      rcases List.mem_cons.mp among with rfl | behind
      · exact ⟨other, List.mem_cons_self, tells⟩
      · rcases induction behind with ⟨found, amongRest, tells⟩
        exact ⟨found, List.mem_cons_of_mem _ amongRest, tells⟩

section

variable (told : Told phase (phase.reading chain world.store) world last outcomes deeds)

theorem Told.within (told : Told phase queue world last outcomes deeds) {id : String}
    (counted : id ∈ changed world.store last.store phase.Advances ∪
      (changed world.store last.store phase.Fails ∪ {id | Broken deeds id})) :
    id ∈ queue.map (·.id) := by
  rcases counted with advances | fails | broken
  · exact mem_queue_of_changed (told.others id) (fun _ changes => changes.1 changes.2) advances
  · refine mem_queue_of_changed (told.others id) (fun record changes => ?_) fails
    exact Phase.not_fails_of_stands ⟨rfl, rfl, rfl, rfl⟩ changes
  · by_contra absent
    refine not_broken_of_subject (fun deed done same => absent ?_) broken
    exact same ▸ told.about deed done

variable (sound : LawfulStore.Sound world.store)
include sound told

theorem Told.means : List.Forall₂
    (fun record outcome =>
      (record.id ∈ changed world.store last.store phase.Advances ↔ outcome = .advanced) ∧
      (record.id ∈ changed world.store last.store phase.Fails ∪ {id | Broken deeds id} ↔
        outcome = .failed) ∧
      (record.id ∈ passedOver phase chain world.store last.store deeds ↔
        outcome.isSkipped = true))
    (phase.reading chain world.store) outcomes := by
  have queued := (List.forall₂_and_left _ outcomes).mpr ⟨fun _ among => among, told.told⟩
  refine queued.imp ?_
  rintro record outcome ⟨among, later, stored, tells⟩
  have current := ((Phase.mem_reading sound).mp among).1
  have isRead : record.id ∈ attendedTo phase chain world.store :=
    (mem_attendedTo sound _).mpr (List.mem_map_of_mem among)
  have advances_iff : record.id ∈ changed world.store last.store phase.Advances ↔
      outcome = .advanced :=
    (mem_changed_iff current stored).trans tells.advances_iff
  have fails_iff : record.id ∈ changed world.store last.store phase.Fails ∪ {id | Broken deeds id} ↔
      outcome = .failed :=
    (or_congr_left (mem_changed_iff current stored)).trans tells.fails_or_lost_iff
  refine ⟨advances_iff, fails_iff, ?_⟩
  unfold passedOver
  rw [Set.mem_sdiff, Set.mem_union, advances_iff, fails_iff]
  simp only [isRead, true_and]
  cases outcome <;> simp [Outcome.isSkipped]

theorem Told.exists_tells {id : String}
    (isRead : id ∈ (phase.reading chain world.store).map (·.id)) :
    ∃ outcome ∈ outcomes, ∃ earlier ∈ LawfulStore.record? world.store id,
      ∃ later ∈ LawfulStore.record? last.store id,
        phase.Tells earlier later (Broken deeds id) outcome := by
  rcases List.mem_map.mp isRead with ⟨record, among, rfl⟩
  have current := ((Phase.mem_reading sound).mp among).1
  rcases exists_told told.told among with ⟨outcome, amongOutcomes, later, stored, tells⟩
  exact ⟨outcome, amongOutcomes, record, current, later, stored, tells⟩

theorem Told.stands {id : String}
    (passed : id ∈ passedOver phase chain world.store last.store deeds) :
    ∃ earlier ∈ LawfulStore.record? world.store id, ∃ later ∈ LawfulStore.record? last.store id,
      later.SameStanding earlier := by
  rcases passed with ⟨isRead, uncounted⟩
  rcases told.exists_tells sound ((mem_attendedTo sound id).mp isRead) with
    ⟨outcome, -, earlier, current, later, stored, tells⟩
  refine ⟨earlier, current, later, stored, ?_⟩
  cases tells with
  | advanced advances =>
      exact absurd (.inl ((mem_changed_iff current stored).mpr advances)) uncounted
  | failed fails =>
      exact absurd (.inr (.inl ((mem_changed_iff current stored).mpr fails))) uncounted
  | broken _ broken => exact absurd (.inr (.inr broken)) uncounted
  | skipped stands => exact stands

theorem Told.intact {id : String} (fails : id ∈ changed world.store last.store phase.Fails) :
    ¬ Broken deeds id := by
  intro broken
  rcases told.exists_tells sound (told.within (.inr (.inl fails))) with
    ⟨outcome, -, earlier, current, later, stored, tells⟩
  exact tells.intact_of_fails ((mem_changed_iff current stored).mp fails) broken

theorem Told.idle (idle : (outcomes.foldl Summary.count {}).hasActivity = false) (id : String) :
    (LawfulStore.record? last.store id).map (fun record => (record.status, record.retryCount)) =
      (LawfulStore.record? world.store id).map
        fun record => (record.status, record.retryCount) := by
  by_cases isRead : id ∈ (phase.reading chain world.store).map (·.id)
  · rcases told.exists_tells sound isRead with
      ⟨outcome, among, earlier, current, later, stored, tells⟩
    have stands := tells.stands_of_isSkipped (Summary.isSkipped_of_idle idle outcome among)
    rw [current, stored, Option.map_some, Option.map_some, stands.status, stands.retryCount]
  · rw [told.others id isRead]

theorem Told.accounts [ListsOnce σ] :
    Accounts phase chain world.store last.store deeds (outcomes.foldl Summary.count {}) := by
  have distinct : ((phase.reading chain world.store).map (·.id)).Nodup := Phase.nodup_reading sound
  have means := told.means sound
  rw [Summary.foldl_count]
  simp only [Nat.zero_add]
  refine ⟨?_, ?_, ?_, fun id => told.stands sound, fun id unread => ?_, fun idle => ?_⟩
  · refine encard_of_told distinct (fun id counted => told.within (.inl counted)) ?_
    exact means.imp fun record outcome means => means.1.trans decide_eq_true_iff.symm
  · have apart : Disjoint (changed world.store last.store phase.Fails) {id | Broken deeds id} :=
      Set.disjoint_left.mpr fun _ fails => told.intact sound fails
    rw [← Set.encard_union_eq apart]
    refine encard_of_told distinct (fun id counted => told.within (.inr counted)) ?_
    exact means.imp fun record outcome means => means.2.1.trans decide_eq_true_iff.symm
  · refine encard_of_told distinct (fun id passed => (mem_attendedTo sound id).mp passed.1) ?_
    exact means.imp fun record outcome means => means.2.2
  · exact told.others id fun isRead => unread ((mem_attendedTo sound id).mpr isRead)
  · refine told.idle sound ?_
    rw [Summary.foldl_count]
    simpa only [Nat.zero_add] using idle

end

/-- A batch that can read, and whose leases end in time, has a summary. Whenever
there is one, it accounts for the store and for what has been done. -/
structure Reports (weather : Weather) (phase : Phase) (policy : RetryPolicy)
    (chain : Option String) (before : Rough σ) (result : BatchResult × Rough σ) : Prop where
  summed : weather.readFault? phase chain before.clock = none → InTime policy phase result.2 →
    ∃ summary, result.1 = .summary summary
  accounts : ∀ summary, result.1 = .summary summary → ∃ deeds,
    result.2.deeds = before.deeds ++ deeds ∧
      Accounts phase chain before.store result.2.store deeds summary

/-- Whatever the services say and whichever writes are turned down, the summary
of a batch tells what has happened. -/
theorem summaries_account [ListsOnce σ] (reachable : Fleet.Reachable world.store)
    (room : ∀ record ∈ phase.reading chain world.store,
      record.version + 2 < Width.bound64 ∧ policy.CanCount record)
    (inTime : (Activity.run (answer weather) world (Batch.start phase policy chain)).2.seconds <
      Width.bound64) :
    Reports weather phase policy chain world
      (Activity.run (answer weather) world (Batch.start phase policy chain)) := by
  have sound := reachable.sound
  have handles (record : Redemption) (among : record ∈ phase.reading chain world.store) :
      phase.Handles record := by
    rcases (Phase.mem_reading sound).mp among with ⟨found, reads, -⟩
    exact reachable.handles found reads (room record among).1
  cases fault : weather.readFault? phase chain world.clock with
  | some error =>
      rcases run_of_unreadable policy sound fault with ⟨after, ran, -, -⟩
      rw [ran]
      exact ⟨fun works => absurd (fault.symm.trans works) (Option.some_ne_none _), nofun⟩
  | none =>
      rw [run_of_readable sound fault] at inTime ⊢
      have canCount (record : Redemption) (among : record ∈ phase.reading chain world.store) :
          policy.CanCount record := (room record among).2
      rcases told_attendAll (queued_loaded sound handles) canCount inTime with
        ⟨isOverflow, late⟩ | ⟨outcomes, deeds, isSummary, told⟩
      · refine ⟨fun _ inTime => absurd inTime late, fun summary isSummary => ?_⟩
        cases isOverflow.symm.trans isSummary
      · refine ⟨fun _ _ => ⟨_, isSummary⟩, fun summary isThis => ⟨deeds, told.done, ?_⟩⟩
        cases isSummary.symm.trans isThis
        have toldBefore : Told phase (phase.reading chain world.store) world _ outcomes deeds :=
          ⟨told.done, told.about, told.others, told.told⟩
        exact toldBefore.accounts sound

namespace Sample

/-- The commit of the first record comes too late, and there is no attestation
of the second one in time. -/
def contested : Weather where
  duration := fair.duration
  fault?
    | _, .update record 1 =>
        if record.id = "0xa1" then some (.versionConflict "0xa1" 1) else none
    | _, _ => none
  reply moment call := if call.subject = "0xa1" then fair.reply moment call else none

end Sample

/-- The attestation of the first record is lost, which counts as nothing, and a
failure is stored on the second one. -/
theorem summaries_account_of_contested :
    let result := Activity.run (answer Sample.contested) Sample.world
      (Batch.start .attestation {} none)
    result.1 = .summary ⟨0, 1, 1⟩ ∧
      Accounts .attestation none Sample.world.store result.2.store result.2.deeds ⟨0, 1, 1⟩ := by
  intro result
  have happened : result.1 = .summary ⟨0, 1, 1⟩ ∧ result.2.seconds < Width.bound64 := by
    dsimp only [result]
    rw [run_of_readable trivial rfl, Sample.reading_world]
    decide +kernel
  have room : ∀ record ∈ Phase.attestation.reading none Sample.world.store,
      record.version + 2 < Width.bound64 ∧ ({} : RetryPolicy).CanCount record := by
    rw [Sample.reading_world]
    intro record among
    refine ⟨?_, RetryPolicy.canCount (by decide)⟩
    revert record
    decide
  have reports := summaries_account Sample.reachable_world room happened.2
  rcases reports.accounts _ happened.1 with ⟨deeds, done, accounts⟩
  have fresh : result.2.deeds = deeds := done
  exact ⟨happened.1, fresh ▸ accounts⟩

end Rough

end RedemptionRelay
