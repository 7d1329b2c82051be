import RedemptionRelay.Proofs.Fleet.Budget
import RedemptionRelay.Proofs.Fleet.Thrift

/-! # Attempts are due and counted

However many batches follow one policy, an external call begins only on a record
that was free and due when the worker last read it, and that nobody has changed
before the worker's own claim. No batch calls twice for one redemption, and the
failures on record stay within the budget.
-/

namespace RedemptionRelay

def Call.phase : Call → Phase
  | .fetch _ => .attestation
  | .submit _ _ => .settlement

namespace RetryPolicy

/-- The record may be attempted at this time: it waits in the phase, nobody holds
it, and after a failure there are retries left and the wait is over. The sum
stops growing at the last time there is. -/
structure Due (policy : RetryPolicy) (phase : Phase) (record : Redemption) (now : Nat) : Prop where
  reads : phase.Reads record
  free : ∀ expiry ∈ record.leaseExpiresAt, expiry ≤ now
  retriesLeft : record.status.isRetryable = true → record.retryCount ≤ policy.maxRetries
  waited : record.status.isRetryable = true →
    record.dates.lastActivityAt + policy.backoff ≤ now ∨ now = Redemption.maxTime

variable {policy : RetryPolicy} {phase : Phase} {record : Redemption} {now leaseUntil : Nat}
  {call : Call} {limit : Duration}

theorem phase_of_call? (isCall : call? phase record = some call) : call.phase = phase := by
  cases phase with
  | attestation =>
      cases isCall
      rfl
  | settlement =>
      rcases Option.map_eq_some_iff.mp isCall with ⟨payload, -, rfl⟩
      rfl

theorem due_of_decide (reads : phase.Reads record)
    (decided : policy.decide phase record now = .attempt call limit leaseUntil) :
    policy.Due phase record now where
  reads := reads
  free expiry held := by
    have unleased := unleased_of_decide decided (by simp)
    unfold Redemption.isLeased at unleased
    rw [Option.mem_def.mp held] at unleased
    exact Nat.le_of_not_lt (of_decide_eq_false unleased)
  retriesLeft retryable := by
    have retriesLeft := (attempts_of_decide decided).retriesLeft
    simpa [isExhausted, retryable] using retriesLeft
  waited retryable := by
    have attempts := attempts_of_decide decided
    have inTime := leaseUntil_le_of_decide decided
    have waited := attempts.waited
    simp only [Redemption.backoffElapsed, retryable, Bool.not_true, Bool.false_or,
      decide_eq_true_eq] at waited
    rw [attempts.isLease] at inTime
    omega

end RetryPolicy

namespace Fleet

variable {σ : Type}

/-- The worker has claimed the record for this call: it has replaced the last
state of it, and that one was due when the worker read the clock. -/
def Cleared (policy : RetryPolicy) (fleet : Fleet σ) (worker now : Nat) (id : String)
    (call : Call) : Prop :=
  ∃ place base leaseUntil claimedAt,
    (versionsIn (fleet.history.take place) id).getLast? = some base ∧
      fleet.history[place]? =
        some ⟨worker, .stored { base.claim leaseUntil claimedAt with
          version := base.version + 1 }⟩ ∧
      policy.Due call.phase base now

variable [Store σ] [LawfulStore σ] {origin : String → Option Redemption} {policy : RetryPolicy}
  {fleet : Fleet σ} {index : Nat} {member : Member} {store : σ}

theorem Coherent.last_before (coherent : fleet.Coherent origin) (fresh : ∀ id, origin id = none)
    {place : Nat} {record next : Redemption}
    (stored : fleet.history[place]? = some ⟨index, .stored next⟩)
    (known : record ∈ fleet.versions next.id) (isNext : next.version = record.version + 1) :
    (versionsIn (fleet.history.take place) next.id).getLast? = some record := by
  have ordered : (fleet.versions next.id).Pairwise Redemption.Before :=
    trail_of_fresh fresh next.id ▸ Redemption.pairwise_before (coherent.linked next.id)
  have parts : fleet.versions next.id = versionsIn (fleet.history.take place) next.id ++
      next :: versionsIn (fleet.history.drop (place + 1)) next.id := by
    rcases List.getElem?_eq_some_iff.mp stored with ⟨inside, isEntry⟩
    have split := List.take_append_drop place fleet.history
    rw [List.drop_eq_getElem_cons inside, isEntry] at split
    have isVersion : HistoryEntry.version? next.id ⟨index, .stored next⟩ = some next := if_pos rfl
    calc fleet.versions next.id
        = versionsIn (fleet.history.take place ++ ⟨index, .stored next⟩ ::
            fleet.history.drop (place + 1)) next.id := by rw [split]; rfl
      _ = _ := by rw [versionsIn, List.filterMap_append, List.filterMap_cons_some isVersion]; rfl
  rw [parts] at ordered known
  rcases List.pairwise_append.mp ordered with ⟨before, since, across⟩
  have among : record ∈ versionsIn (fleet.history.take place) next.id := by
    rcases List.mem_append.mp known with among | after
    · exact among
    · rcases List.mem_cons.mp after with rfl | after
      · omega
      · have later := ((List.pairwise_cons.mp since).1 record after).version
        omega
  cases isLast : (versionsIn (fleet.history.take place) next.id).getLast? with
  | none =>
      rw [List.getLast?_eq_none_iff.mp isLast] at among
      cases among
  | some last =>
      have lastBefore := (across last (List.mem_of_getLast? isLast) next List.mem_cons_self).version
      rcases Redemption.eq_or_before_last before among isLast with rfl | recordBefore
      · rfl
      · have earlier := recordBefore.version
        omega

theorem Coherent.cleared_of_attempt? (coherent : fleet.Coherent origin)
    (fresh : ∀ id, origin id = none) (budgeted : fleet.Budgeted policy)
    (there : fleet.members[index]? = some member) {claimed : Redemption} {attempt : Attempt}
    (attempts : member.job.attempt? = some (claimed, attempt)) :
    fleet.Cleared policy index (member.admittedAt / Duration.nanosecondsPerSecond) claimed.id
      attempt.call := by
  rcases Job.calling_of_attempt? attempts with ⟨work, queue, isBatch, stage⟩
  have traced := coherent.traced index member there
  have follows := budgeted.follows index member there
  rw [isBatch] at traced follows
  cases follows
  change work.stage.Traced work.mandate _ at traced
  rw [stage] at traced
  have holds := traced.1
  rcases List.mem_iff_getElem?.mp holds.own with ⟨place, stored⟩
  rcases holds.claim with ⟨record, leaseUntil, now, admits, rfl⟩
  have known : record ∈ fleet.versions record.id :=
    trail_of_fresh fresh record.id ▸ admits.found.known
  have due := RetryPolicy.due_of_decide admits.found.reads admits.decided
  rw [admits.started, ← RetryPolicy.phase_of_call? holds.isCall] at due
  exact ⟨place, record, leaseUntil, now, coherent.last_before fresh stored known rfl, stored, due⟩

variable (policy fleet) in
structure Disciplined : Prop where
  /-- Every call that the fleet can begin has been cleared. -/
  calls : ∀ move next worker id call, fleet.step? move = some next →
    next.history = fleet.history ++ [⟨worker, .called id call⟩] →
      ∃ member, fleet.members[worker]? = some member ∧
        fleet.Cleared policy worker (member.admittedAt / Duration.nanosecondsPerSecond) id call
  /-- A batch calls once for a redemption, at most. -/
  once : ∀ worker id, fleet.history.countP (·.isCallBy worker id) ≤ 1
  retries : ∀ id record, LawfulStore.record? fleet.store id = some record →
    record.retryCount ≤ policy.maxRetries + 1
  failures : ∀ id (phase : Phase), phase.failures (fleet.versions id) ≤ policy.maxRetries + 1
  /-- A record is given up for a spent budget exactly when it has counted one
  failure more than there are retries. -/
  exhausted : ∀ id, (fleet.versions id).IsChain fun earlier later =>
    earlier.Exhausts later ↔ earlier.retryCount = policy.maxRetries + 1

theorem attempts_disciplined {clock : Nat} (sound : LawfulStore.Sound store)
    (vacant : ∀ id, LawfulStore.record? store id = none)
    (run : Run (Uniform policy) (initial store clock) fleet) : fleet.Disciplined policy := by
  have coherent := run.coherent sound
  have budgeted := run.budgeted sound vacant
  refine ⟨?_, (run.thrifty sound).once, ?_, ?_, ?_⟩
  · intro move next worker id call step called
    cases steps_of_step? step with
    | passed | batchLaunched | intakeLaunched => exact absurd called (by simp [joined, told])
    | @acted index member after action store deeds there acts =>
        have done : deeds.map (⟨index, ·⟩) = [(⟨worker, .called id call⟩ : HistoryEntry)] :=
          List.append_cancel_left called
        rcases List.map_eq_singleton_iff.mp done with ⟨deed, rfl, same⟩
        cases same
        rcases coherent.attempt_of_called there acts (List.mem_singleton_self _) with
          ⟨claimed, attempt, attempts, -, rfl, rfl⟩
        exact ⟨member, there, coherent.cleared_of_attempt? vacant budgeted there attempts⟩
  · intro id record current
    have written : record ∈ fleet.versions id :=
      trail_of_fresh vacant id ▸ coherent.known_of_current current
    exact budgeted.retryCount_le (fun id => coherent.begun id (vacant id)) written
  · exact fun id phase => RetryPolicy.failures_le (budgeted.linked id) phase
  · exact fun id => (budgeted.linked id).imp fun _ _ spends => spends.exhausts_iff

/-- A batch reads a record twice, because another one fails to fetch its
attestation in the meantime. It calls once; then the budget is spent, and the
next batch gives the record up. -/
theorem attempts_disciplined_of_two_readings :
    ∃ fleet : Fleet MemoryStore, fleet.Disciplined { maxRetries := 1 } ∧
      (fleet.history.countP (·.isCallBy 1 "0xa1"), fleet.history.countP (·.isCallBy 2 "0xa1")) =
        (1, 1) ∧
      (fleet.versions "0xa1").map (fun record => (record.status, record.retryCount)) =
        [(.pending, 0), (.pending, 0), (.fetchFailed, 1), (.fetchFailed, 1), (.fetchFailed, 2),
          (.failed, 2)] := by
  let policy : RetryPolicy := { maxRetries := 1 }
  let silent : (call : Call) → Option call.Reply := fun _ => none
  let moves : List Move :=
    Sample.arrival ++ [.launchBatch .attestation policy none, .act 1 .proceed] ++
      [.launchBatch .attestation policy none] ++ Sample.claim 2 ++ [.act 2 .call] ++
      Sample.conclusion 2 silent ++ [.pass 60000000000] ++
      List.replicate 7 (.act 1 .proceed) ++ [.act 1 .call] ++ Sample.conclusion 1 silent ++
      [.launchBatch .attestation policy none] ++ List.replicate 6 (.act 3 .proceed)
  have happened : ((initial ({} : MemoryStore) 0).follow? (Uniform policy) moves).map (fun fleet =>
      ((fleet.history.countP (·.isCallBy 1 "0xa1"), fleet.history.countP (·.isCallBy 2 "0xa1")),
        (fleet.versions "0xa1").map fun record => (record.status, record.retryCount))) =
        some ((1, 1), [(.pending, 0), (.pending, 0), (.fetchFailed, 1), (.fetchFailed, 1),
          (.fetchFailed, 2), (.failed, 2)]) := by
    decide +kernel
  rcases Option.map_eq_some_iff.mp happened with ⟨fleet, followed, seen⟩
  rcases Prod.mk.inj seen with ⟨calls, versions⟩
  have run : Run (Uniform policy) (initial ({} : MemoryStore) 0) fleet := .of_follow? .rest followed
  exact ⟨fleet, attempts_disciplined trivial (fun _ => rfl) run, calls, versions⟩

end Fleet

end RedemptionRelay
