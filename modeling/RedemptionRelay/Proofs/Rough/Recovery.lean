import RedemptionRelay.Proofs.Rough.Isolation

/-! # What a lost write leaves behind

A write that fails has written nothing. So a record that could not be claimed is
as it was, and one whose commit is lost is as it was claimed. Either way the
batches of its phase still read it, and attempt it again when the lease and the
wait are over.
-/

namespace RedemptionRelay

/-- All that a batch does about a record when one of its writes is turned down,
and what the store holds then. -/
inductive Kept (record : Redemption) : List Deed → Redemption → Prop where
  | unclaimed {leaseUntil now : Nat} {error : StoreError} :
      Kept record [.refused (record.claim leaseUntil now) error] record
  | unended {message : String} {now logged : Nat} {next : Redemption} {error : StoreError}
      (applied : record.apply (.failed message) now logged = .ok next) :
      Kept record [.refused next error] record
  | claimed {leaseUntil claimedAt now logged : Nat} {claimed next : Redemption} {call : Call}
      {reply : Option call.Reply} {mark : Mark} {error : StoreError}
      (isClaimed : claimed =
        { record.claim leaseUntil claimedAt with version := record.version + 1 })
      (applied : claimed.apply mark now logged = .ok next) :
      Kept record
        [.stored claimed, .called record.id call, .replied record.id call reply,
          .refused next error] claimed

namespace Kept

variable {record stored : Redemption} {deeds : List Deed} {phase : Phase}

theorem request (kept : Kept record deeds stored) : stored.SameRequest record := by
  cases kept with
  | unclaimed | unended => exact ⟨rfl, rfl, rfl, rfl⟩
  | claimed isClaimed =>
      subst isClaimed
      exact ⟨rfl, rfl, rfl, rfl⟩

theorem reads (kept : Kept record deeds stored) (reads : phase.Reads record) :
    phase.Reads stored := by
  cases kept with
  | unclaimed | unended => exact reads
  | claimed isClaimed =>
      subst isClaimed
      exact reads

end Kept

theorem RetryPolicy.decide_ne_skip {policy : RetryPolicy} {phase : Phase} {record : Redemption}
    {now : Nat} (unleased : ∀ expiry ∈ record.leaseExpiresAt, expiry ≤ now)
    (rested : record.status.isRetryable = true →
      min (record.dates.lastActivityAt + policy.backoff) Redemption.maxTime ≤ now)
    (reason : SkipReason) : policy.decide phase record now ≠ .skip reason := by
  intro decided
  rcases leased_or_waiting_of_decide decided with leased | waiting
  · unfold Redemption.isLeased at leased
    split at leased
    · next expiry held =>
        exact Nat.not_lt_of_le (unleased expiry held) (of_decide_eq_true leased)
    · cases leased
  · unfold Redemption.backoffElapsed at waiting
    rw [Bool.or_eq_false_iff, Bool.not_eq_false', decide_eq_false_iff_not] at waiting
    exact waiting.2 (rested waiting.1)

namespace Weather

variable {weather : Weather} {policy : RetryPolicy} {phase : Phase} {record : Redemption}
  {moment : Nat} {refusal : Redemption} {error : StoreError}

theorem conclusion_of_refused {mark : Mark} {outcome : Outcome}
    (refused : .refused refusal error ∈ (weather.conclusion record mark outcome moment).deeds) :
    ∃ now logged, record.apply mark now logged = .ok refusal ∧
      (weather.conclusion record mark outcome moment).deeds = [.refused refusal error] ∧
      (weather.conclusion record mark outcome moment).record = record := by
  unfold conclusion at refused ⊢
  dsimp only at refused ⊢
  split at refused
  · cases refused
  · next next applied =>
      unfold commit at refused ⊢
      dsimp only at refused ⊢
      split at refused
      · cases List.mem_singleton.mp refused
        exact ⟨_, _, applied, rfl, rfl⟩
      · split at refused <;> simp at refused

theorem kept_of_refused (named : record.event.sourceTxHash = record.id)
    (refused : .refused refusal error ∈ (weather.fate phase policy record moment).deeds) :
    Kept record (weather.fate phase policy record moment).deeds
      (weather.fate phase policy record moment).record := by
  let started := weather.answered moment .readClock
  cases decided : policy.decide phase record (secondOf started) with
  | skip reason | overflow =>
      rw [fate_of_decide decided] at refused
      cases refused
  | abandon message =>
      rw [fate_of_decide decided] at refused ⊢
      dsimp only [sequel] at refused ⊢
      rcases conclusion_of_refused refused with ⟨now, logged, applied, deeds, kept⟩
      rw [deeds, kept]
      exact .unended applied
  | attempt call limit leaseUntil =>
      rw [fate_of_decide decided] at refused ⊢
      dsimp only [sequel] at refused ⊢
      have isCall : call.subject = record.id :=
        (subject_of_call? (RetryPolicy.attempts_of_decide decided).isCall).trans named
      cases works : weather.fault? (weather.answered started .readClock)
          (.update (weather.claim record leaseUntil started) record.version) with
      | some error' =>
          rw [pursuit_of_fault works]
          exact .unclaimed
      | none =>
          rw [pursuit_of_ok works] at refused ⊢
          dsimp only [errand] at refused ⊢
          rw [isCall] at refused ⊢
          simp only [List.cons_append, List.nil_append, List.mem_cons, reduceCtorEq, false_or]
            at refused
          rcases conclusion_of_refused refused with ⟨now, logged, applied, deeds, kept⟩
          rw [deeds, kept]
          exact .claimed rfl applied

end Weather

namespace Rough

variable {σ : Type} [Store σ] [LawfulStore σ] {weather : Weather} {world after : Rough σ}
  {policy : RetryPolicy} {phase : Phase} {chain : Option String} {record : Redemption}
  {queue : List Redemption} {summary : Summary}

/-- Every record in the queue has met its fate, up to the one at which the batch
has broken off, if it has; nothing has happened to the others. -/
structure Fares (weather : Weather) (phase : Phase) (policy : RetryPolicy)
    (queue : List Redemption) (before after : Rough σ) : Prop where
  sound : LawfulStore.Sound after.store
  others : ∀ id, id ∉ queue.map (·.id) →
    LawfulStore.record? after.store id = LawfulStore.record? before.store id ∧
      after.about id = before.about id
  queued : ∀ record ∈ queue, after.about record.id = before.about record.id ∨
    ∃ moment, LawfulStore.record? after.store record.id =
        some (weather.fate phase policy record moment).record ∧
      after.about record.id =
        before.about record.id ++ (weather.fate phase policy record moment).deeds

theorem Fares.untouched (queued : Queued phase queue world) :
    Fares weather phase policy queue world world :=
  ⟨queued.sound, fun _ _ => ⟨rfl, rfl⟩, fun _ _ => .inl rfl⟩

theorem Fares.cons {between : Rough σ} {ended : Option Outcome}
    (fares : Fares weather phase policy queue between after)
    (queued : Queued phase (record :: queue) world)
    (befalls : Befalls world (ended, between) record.id
      (weather.fate phase policy record world.clock)) :
    Fares weather phase policy (record :: queue) world after := by
  have named := (queued.handles record List.mem_cons_self).named
  have distinct := List.nodup_cons.mp queued.distinct
  have records := befalls.records
  have deeds := befalls.about fun _ => Weather.subject_of_fate named
  refine ⟨fares.sound, fun id absent => ?_, fun other among => ?_⟩
  · rw [List.map_cons, List.mem_cons, not_or] at absent
    rcases fares.others id absent.2 with ⟨sameRecord, sameDeeds⟩
    rw [sameRecord, sameDeeds, deeds, if_neg absent.1, List.append_nil]
    exact ⟨(records id).trans (if_neg absent.1), rfl⟩
  · rcases List.mem_cons.mp among with rfl | among
    · rcases fares.others other.id distinct.1 with ⟨sameRecord, sameDeeds⟩
      refine .inr ⟨world.clock, ?_, ?_⟩
      · exact sameRecord.trans ((records other.id).trans (if_pos rfl))
      · rw [sameDeeds, deeds, if_pos rfl]
    · have different : other.id ≠ record.id := fun same =>
        distinct.1 (List.mem_map.mpr ⟨other, among, same⟩)
      have aboutBetween : between.about other.id = world.about other.id := by
        rw [deeds, if_neg different, List.append_nil]
      rw [← aboutBetween]
      exact fares.queued other among

theorem fares_attendAll (queued : Queued phase queue world)
    (canCount : ∀ record ∈ queue, policy.CanCount record)
    (inTime : (Batch.attendAll (answer weather) phase policy summary queue world).2.seconds <
      Width.bound64) :
    Fares weather phase policy queue world
      (Batch.attendAll (answer weather) phase policy summary queue world).2 := by
  induction queue generalizing world summary with
  | nil => exact .untouched queued
  | cons record queue induction =>
      rcases attendAll_first queued (canCount record List.mem_cons_self) inTime with
        ⟨ended, between, attended, befalls, behind⟩
      rw [Batch.attendAll, attended] at inTime ⊢
      cases ended with
      | none => exact (Fares.untouched behind).cons queued befalls
      | some outcome =>
          have later : ∀ other ∈ queue, policy.CanCount other :=
            fun other among => canCount other (List.mem_cons_of_mem _ among)
          exact (induction behind later inTime).cons queued befalls

/-- A record one of whose writes has been turned down is as it was or as it was
claimed. A later batch reads it, and deals with it as soon as the lease and the
wait are over. -/
theorem lost_writes_recoverable [ListsOnce σ] (reachable : Fleet.Reachable world.store)
    (fresh : world.deeds = []) (among : record ∈ phase.reading chain world.store)
    (room : ∀ other ∈ phase.reading chain world.store,
      other.version + 2 < Width.bound64 ∧ policy.CanCount other)
    (ran : (Activity.run (answer weather) world (Batch.start phase policy chain)).2 = after)
    (inTime : after.seconds < Width.bound64) {refusal : Redemption} {error : StoreError}
    (refused : .refused refusal error ∈ after.about record.id) :
    ∃ stored, LawfulStore.record? after.store record.id = some stored ∧
      Kept record (after.about record.id) stored ∧
      stored ∈ phase.reading chain after.store ∧
      ∀ (later : RetryPolicy) (now : Nat), (∀ expiry ∈ stored.leaseExpiresAt, expiry ≤ now) →
        (stored.status.isRetryable = true →
          min (stored.dates.lastActivityAt + later.backoff) Redemption.maxTime ≤ now) →
        ∀ reason, later.decide phase stored now ≠ .skip reason := by
  have sound := reachable.sound
  have handles (other : Redemption) (among : other ∈ phase.reading chain world.store) :
      phase.Handles other := by
    rcases (Phase.mem_reading sound).mp among with ⟨found, reads, -⟩
    exact reachable.handles found reads (room other among).1
  subst ran
  cases fault : weather.readFault? phase chain world.clock with
  | some failure =>
      rcases run_of_unreadable policy sound fault with ⟨after, ran, -, deeds⟩
      rw [ran, about, deeds, fresh] at refused
      cases refused
  | none =>
      rw [run_of_readable sound fault] at inTime refused ⊢
      have fares := fares_attendAll (queued_loaded sound handles)
        (fun other among => (room other among).2) inTime
      have nothing : (world.loaded weather phase chain).about record.id = [] := by
        show world.deeds.filter _ = []
        rw [fresh, List.filter_nil]
      rcases fares.queued record among with untouched | ⟨moment, stored, done⟩
      · rw [untouched, nothing] at refused
        cases refused
      rw [nothing, List.nil_append] at done
      rw [done] at refused ⊢
      have kept := Weather.kept_of_refused (handles record among).named refused
      rcases (Phase.mem_reading sound).mp among with ⟨-, reads, matching⟩
      refine ⟨_, stored, kept, ?_, fun _ _ => RetryPolicy.decide_ne_skip⟩
      refine (Phase.mem_reading fares.sound).mpr ⟨?_, kept.reads reads, ?_⟩
      · rw [kept.request.id]
        exact stored
      · rw [kept.request.chain]
        exact matching

/-- The lease that is left behind ends a minute after the decision; then the
record is attempted again. -/
theorem lost_writes_recoverable_at_commit :
    let after := (Activity.run (answer Sample.foul) Sample.world
      (Batch.start .attestation {} none)).2
    ∃ stored, LawfulStore.record? after.store "0xa1" = some stored ∧
      Kept Sample.first (after.about "0xa1") stored ∧
      (stored.status, stored.version, stored.leaseExpiresAt) = (.pending, 1, some 64) ∧
      ∀ reason, ({} : RetryPolicy).decide .attestation stored 64 ≠ .skip reason := by
  intro after
  have happened : after.seconds < Width.bound64 ∧
      (LawfulStore.record? after.store "0xa1").map
        (fun stored => (stored.status, stored.version, stored.leaseExpiresAt)) =
          some (.pending, 1, some 64) ∧
      (after.about "0xa1").any (· matches .refused _ _) = true := by
    dsimp only [after]
    rw [run_of_readable trivial rfl, Sample.reading_world]
    decide +kernel
  have among : Sample.first ∈ Phase.attestation.reading none Sample.world.store := by
    rw [Sample.reading_world]
    exact List.mem_cons_self
  have room : ∀ other ∈ Phase.attestation.reading none Sample.world.store,
      other.version + 2 < Width.bound64 ∧ ({} : RetryPolicy).CanCount other := by
    rw [Sample.reading_world]
    intro other among
    refine ⟨?_, RetryPolicy.canCount (by decide)⟩
    revert other
    decide
  rcases happened with ⟨inTime, seen, refusal⟩
  rcases List.any_eq_true.mp refusal with ⟨deed, done, isRefusal⟩
  cases deed with
  | refused refusal error =>
      rcases lost_writes_recoverable Sample.reachable_world rfl among room rfl inTime done with
        ⟨stored, isStored, kept, -, recovers⟩
      have state : (stored.status, stored.version, stored.leaseExpiresAt) =
          (.pending, 1, some 64) := by
        rw [show LawfulStore.record? after.store "0xa1" = some stored from isStored] at seen
        exact Option.some.inj seen
      simp only [Prod.mk.injEq] at state
      rcases state with ⟨status, version, lease⟩
      refine ⟨stored, isStored, kept, by rw [status, version, lease], recovers {} 64 ?_ ?_⟩
      · rw [lease]
        rintro expiry ⟨⟩
        exact Nat.le_refl _
      · rw [status]
        exact nofun
  | _ => cases isRefusal

end Rough

end RedemptionRelay
