import RedemptionRelay.Batch
import RedemptionRelay.Proofs.Redemption.Consistency
import RedemptionRelay.Proofs.Redemption.Traces

/-! # How much is left to do

The attempts that a record can still see are bounded: each one uses up a part of
the budget of its phase or brings the record into the next phase, and with the
budget gone the next attempt ends it.
-/

namespace RedemptionRelay

/-- The changes with which an attempt of a phase can end, unless it leaves
things as they were. -/
def Phase.concludes : Phase → Mark → Bool
  | .attestation, .fetched _ | .attestation, .fetchFailed _ | .attestation, .failed _ => true
  | .settlement, .completed _ | .settlement, .submitFailed _ | .settlement, .failed _ => true
  | _, _ => false

def Phase.Reads (phase : Phase) (record : Redemption) : Prop :=
  record.status = phase.waiting ∨ record.status = phase.retrying

theorem Phase.Reads.alive {phase : Phase} {record : Redemption} (reads : phase.Reads record) :
    record.status.isTerminal = false := by
  rcases reads with status | status <;> rw [status] <;> cases phase <;> rfl

theorem Phase.Reads.canFail {phase : Phase} {record : Redemption} (reads : phase.Reads record) :
    record.status.canBecome .failed = true := by
  rcases reads with status | status <;> rw [status] <;> cases phase <;> rfl

theorem Phase.reads_of_alive {record : Redemption} (alive : record.status.isTerminal = false) :
    Phase.attestation.Reads record ∨ Phase.settlement.Reads record := by
  unfold Phase.Reads
  revert alive
  cases record.status <;> decide

theorem Status.eq_fetched_of_canBecome {status next : Status} (edge : status.canBecome next = true)
    (before : status.rank = 0) (after : next.rank = 1) : next = .fetched := by
  revert edge before after
  cases status <;> cases next <;> decide

namespace RetryPolicy

/-- Attempts until the record has ended, at most. In each phase there may be one
failure more than there are retries, and one attempt that gives up. -/
def attemptsLeft (policy : RetryPolicy) (record : Redemption) : Nat :=
  match record.status with
  | .pending | .fetchFailed => max 2 (2 * policy.maxRetries + 3 - record.retryCount)
  | .fetched | .submitFailed => max 1 (policy.maxRetries + 2 - record.retryCount)
  | .completed | .failed => 0

/-- Ticks until the record has ended, at most. The tick that fetches the
attestation goes on to settle it. -/
def ticksLeft (policy : RetryPolicy) (record : Redemption) : Nat :=
  match record.status with
  | .pending | .fetchFailed => max 1 (2 * policy.maxRetries + 2 - record.retryCount)
  | .fetched | .submitFailed => max 1 (policy.maxRetries + 2 - record.retryCount)
  | .completed | .failed => 0

variable {policy : RetryPolicy} {phase : Phase} {record claimed next : Redemption} {mark : Mark}
  {now logged : Nat}

theorem ticksLeft_le : policy.ticksLeft record ≤ 2 * policy.maxRetries + 2 := by
  unfold ticksLeft
  split <;> omega

theorem attemptsLeft_pos (alive : record.status.isTerminal = false) :
    0 < policy.attemptsLeft record := by
  unfold attemptsLeft
  cases status : record.status
  case completed | failed => simp [status, Status.isTerminal] at alive
  all_goals dsimp only; omega

theorem attemptsLeft_of_terminal (ended : record.status.isTerminal = true) :
    policy.attemptsLeft record = 0 := by
  unfold attemptsLeft
  cases status : record.status
  case completed | failed => rfl
  all_goals simp [status, Status.isTerminal] at ended

theorem ticksLeft_of_terminal (ended : record.status.isTerminal = true) :
    policy.ticksLeft record = 0 := by
  unfold ticksLeft
  cases status : record.status
  case completed | failed => rfl
  all_goals simp [status, Status.isTerminal] at ended

theorem alive_of_ticksLeft {ticks : Nat} (left : ticks < policy.ticksLeft record) :
    record.status.isTerminal = false := by
  cases terminal : record.status.isTerminal with
  | false => rfl
  | true =>
      rw [ticksLeft_of_terminal terminal] at left
      cases left

theorem two_le_attemptsLeft (first : record.status.rank = 0) :
    2 ≤ policy.attemptsLeft record := by
  unfold attemptsLeft
  cases status : record.status
  case pending | fetchFailed => dsimp only; omega
  all_goals simp [status, Status.rank] at first

theorem ticksLeft_eq :
    policy.ticksLeft record = policy.attemptsLeft record - (1 - record.status.rank) := by
  unfold ticksLeft attemptsLeft
  cases record.status <;> dsimp only [Status.rank] <;> omega

theorem isTerminal_of_ticksLeft (none : policy.ticksLeft record = 0) :
    record.status.isTerminal = true := by
  unfold ticksLeft at none
  cases status : record.status
  case completed | failed => rfl
  all_goals
    simp only [status] at none
    omega

theorem attemptsLeft_failed {error : String}
    (changed : record.apply (.failed error) now logged = .ok next) :
    policy.attemptsLeft next = 0 := by
  have status := (Redemption.status_of_apply changed).2
  exact attemptsLeft_of_terminal (by rw [status]; rfl)

theorem attemptsLeft_congr (status : claimed.status = record.status)
    (retries : claimed.retryCount = record.retryCount) :
    policy.attemptsLeft claimed = policy.attemptsLeft record := by
  unfold attemptsLeft
  rw [status, retries]

/-! ## One attempt -/

theorem concludes_conclude {call : Call} {started : Nat} {reply : Option call.Reply}
    (isCall : call? phase record = some call)
    (overdue : phase = .attestation → policy.isOverdue claimed started = true) :
    phase.concludes (policy.conclude claimed started call reply).1 = true := by
  cases phase with
  | attestation =>
      cases isCall
      dsimp only [conclude]
      unfold concludeFetch
      split
      · rfl
      · rfl
      · rfl
      · rfl
      · rw [if_pos (overdue rfl)]
        rfl
  | settlement =>
      rcases Option.map_eq_some_iff.mp isCall with ⟨payload, -, rfl⟩
      dsimp only [conclude]
      unfold concludeSubmit
      split
      · rfl
      · rfl
      · split <;> rfl

theorem isSome_target?_of_concludes (concludes : phase.concludes mark = true) :
    mark.target?.isSome := by
  cases mark with
  | claim | release => cases phase <;> cases concludes
  | _ => rfl

theorem canBecome_of_concludes (reads : phase.Reads record)
    (concludes : phase.concludes mark = true) :
    ∀ target ∈ mark.target?, record.status.canBecome target = true := by
  cases phase <;> cases mark <;> simp only [Phase.concludes, Bool.false_eq_true] at concludes <;>
    rcases reads with status | status <;> rw [status] <;> rintro target ⟨⟩ <;> rfl

theorem retryCount_le_of_reads (consistent : record.Consistent) (reads : phase.Reads record)
    (retriesLeft : policy.isExhausted record = false) : record.retryCount ≤ policy.maxRetries := by
  rcases reads with waiting | retrying
  · have none : record.retryCount = 0 := by
      apply consistent.no_attempts
      cases phase with
      | attestation => exact .inl waiting
      | settlement => exact .inr (.inl waiting)
    omega
  · have retryable : record.status.isRetryable = true := by
      rw [retrying]
      cases phase <;> rfl
    simpa [isExhausted, retryable] using retriesLeft

theorem attemptsLeft_of_reads (reads : phase.Reads record)
    (retriesLeft : record.retryCount ≤ policy.maxRetries) :
    policy.attemptsLeft record =
      (if phase = .attestation then 2 * policy.maxRetries + 3 else policy.maxRetries + 2) -
        record.retryCount := by
  unfold attemptsLeft
  cases phase <;> rcases reads with status | status <;>
    simp only [status, Phase.waiting, Phase.retrying, reduceCtorEq, if_true, if_false] <;> omega

theorem attemptsLeft_lt_of_apply (reads : phase.Reads record)
    (retriesLeft : record.retryCount ≤ policy.maxRetries) (concludes : phase.concludes mark = true)
    (changed : record.apply mark now logged = .ok next) :
    policy.attemptsLeft next < policy.attemptsLeft record := by
  have status := Redemption.status_of_apply changed
  have retries := (Redemption.traces_of_apply changed).retries
  rw [attemptsLeft_of_reads reads retriesLeft]
  unfold attemptsLeft
  cases phase <;> cases mark <;> simp only [Phase.concludes, Bool.false_eq_true] at concludes <;>
    simp only [Mark.target?] at status <;>
    simp only [status.2, retries, Mark.retries, reduceCtorEq, if_true, if_false] <;> omega

/-! ## A whole attempt

The record that an attempt concludes on is the one that was read, or the one
that was claimed, whose version is the next. -/

structure Holds (record claimed : Redemption) : Prop where
  status : claimed.status = record.status
  retries : claimed.retryCount = record.retryCount
  request : claimed.SameRequest record
  version : record.version ≤ claimed.version ∧ claimed.version ≤ record.version + 1
  consistent : claimed.Consistent
  inRange : claimed.InRange

/-- What becomes of a record in one attempt, which is over at `now`. -/
structure Advances (policy : RetryPolicy) (now : Nat) (record next : Redemption) : Prop where
  attempts : policy.attemptsLeft next < policy.attemptsLeft record
  rank : record.status.rank ≤ next.status.rank
  /-- A new phase begins in its waiting state. -/
  fresh : record.status.rank = 0 → next.status.rank = 1 → next.status = .fetched
  request : next.SameRequest record
  newer : record.version < next.version
  spent : next.version + 2 * policy.attemptsLeft next ≤
    record.version + 2 * policy.attemptsLeft record
  unleased : next.leaseExpiresAt = none
  active : next.dates.lastActivityAt ≤ now
  consistent : next.Consistent
  inRange : next.InRange

theorem Advances.mono {ended later : Nat} (advances : policy.Advances ended record next)
    (passes : ended ≤ later) : policy.Advances later record next :=
  { advances with active := Nat.le_trans advances.active passes }

theorem holds_self (consistent : record.Consistent) (inRange : record.InRange) :
    Holds record record :=
  ⟨rfl, rfl, ⟨rfl, rfl, rfl, rfl⟩, ⟨Nat.le_refl _, Nat.le_succ _⟩, consistent, inRange⟩

theorem holds_claim {leaseUntil : Nat} (consistent : record.Consistent) (inRange : record.InRange)
    (alive : record.status.isTerminal = false) (nowFits : now < Width.bound64)
    (leaseFits : leaseUntil < Width.bound64) (versionFits : record.version + 1 < Width.bound64) :
    Holds record { record.claim leaseUntil now with version := record.version + 1 } where
  status := rfl
  retries := rfl
  request := ⟨rfl, rfl, rfl, rfl⟩
  version := ⟨Nat.le_succ _, Nat.le_refl _⟩
  consistent := (Redemption.consistent_claim consistent alive leaseUntil).withVersion _
  inRange := Redemption.inRange_claim inRange nowFits leaseFits versionFits

theorem advances_of_apply (holds : Holds record claimed)
    (alive : record.status.isTerminal = false)
    (fewer : policy.attemptsLeft next < policy.attemptsLeft record)
    (moves : mark.target?.isSome)
    (changed : claimed.apply mark now logged = .ok next) (nowFits : now < Width.bound64)
    (loggedFits : logged < Width.bound64)
    (retriesFit : mark.retries record.retryCount < Width.bound32)
    (versionFits : claimed.version + 1 < Width.bound64) {ended : Nat} (inTime : now ≤ ended) :
    policy.Advances ended record { next with version := claimed.version + 1 } := by
  have status := Redemption.status_of_apply changed
  have traces := Redemption.traces_of_apply changed
  have request := (Redemption.sameRequest_of_apply changed).trans holds.request
  have sameAttempts : policy.attemptsLeft { next with version := claimed.version + 1 } =
      policy.attemptsLeft next := attemptsLeft_congr rfl rfl
  rcases Option.isSome_iff_exists.mp moves with ⟨target, isTarget⟩
  simp only [isTarget, holds.status] at status
  have noLease : mark.lease? = none := by
    cases mark with
    | claim => cases isTarget
    | _ => rfl
  exact
    { attempts := sameAttempts ▸ fewer
      rank := status.2 ▸ Status.rank_le_of_canBecome status.1
      fresh := fun before after => status.2 ▸ Status.eq_fetched_of_canBecome status.1 before
        (status.2 ▸ after)
      request := ⟨request.id, request.chain, request.event, request.createdAt⟩
      newer := Nat.lt_succ_of_le holds.version.1
      spent := by
        have spent := holds.version.2
        rw [sameAttempts]
        dsimp only
        omega
      unleased := traces.lease.trans noLease
      active := Nat.le_trans (Nat.le_of_eq traces.lastActivityAt) inTime
      consistent := (holds.consistent.of_apply (holds.status ▸ alive) changed).withVersion _
      inRange := (Redemption.inRange_of_apply holds.inRange nowFits loggedFits
        (by rw [noLease]; exact nofun) (holds.retries ▸ retriesFit) changed).withVersion versionFits }

section

variable {last : Redemption} {ended later : Nat}

theorem Advances.alive (advances : policy.Advances ended record next) :
    record.status.isTerminal = false := by
  cases terminal : record.status.isTerminal with
  | false => rfl
  | true =>
      have fewer := advances.attempts
      rw [attemptsLeft_of_terminal terminal] at fewer
      cases fewer

theorem Advances.ticksLeft_le (advances : policy.Advances ended record next) :
    policy.ticksLeft next ≤ policy.ticksLeft record := by
  have fewer := advances.attempts
  have forward := advances.rank
  rw [ticksLeft_eq, ticksLeft_eq]
  omega

theorem Advances.ticksLeft_lt (advances : policy.Advances ended record next)
    (settled : ¬ (record.status.rank = 0 ∧ next.status.rank = 1)) :
    policy.ticksLeft next < policy.ticksLeft record := by
  have fewer := advances.attempts
  have forward := advances.rank
  rw [ticksLeft_eq, ticksLeft_eq]
  by_cases first : record.status.rank = 0
  · have enough : 2 ≤ policy.attemptsLeft record := two_le_attemptsLeft first
    by_cases stays : next.status.rank = 0
    · have more : 2 ≤ policy.attemptsLeft next := two_le_attemptsLeft stays
      omega
    · have beyond : next.status.rank ≠ 1 := fun settles => settled ⟨first, settles⟩
      have ended : next.status.isTerminal = true := by
        revert stays beyond
        cases next.status <;> decide
      rw [attemptsLeft_of_terminal ended]
      omega
  · omega

/-- Two attempts in one tick are more than the tick has to bring. -/
theorem Advances.ticksLeft_lt_of_both (first : policy.Advances ended record next)
    (second : policy.Advances later next last) :
    policy.ticksLeft last < policy.ticksLeft record := by
  have fewer := first.attempts
  have fewest := second.attempts
  rw [ticksLeft_eq, ticksLeft_eq]
  omega

end

/-! ## Records that go on

Nothing but the wait after a failure keeps such a record from its next attempt,
and its numbers have room for all attempts that are left. -/

structure Steady (policy : RetryPolicy) (now : Nat) (record : Redemption) : Prop where
  consistent : record.Consistent
  inRange : record.InRange
  room : record.version + 2 * policy.attemptsLeft record < Width.bound64
  unleased : ∀ expiry ∈ record.leaseExpiresAt, expiry ≤ now
  overdue : record.status = .pending ∨ record.status = .fetchFailed →
    record.dates.createdAt + policy.attestationDeadline ≤ now
  active : record.dates.lastActivityAt ≤ now

def Rested (policy : RetryPolicy) (now : Nat) (record : Redemption) : Prop :=
  record.status.isRetryable = true → record.dates.lastActivityAt + policy.backoff ≤ now

section

variable {ended later : Nat}

theorem Steady.mono (steady : policy.Steady now record) (passes : now ≤ later) :
    policy.Steady later record where
  consistent := steady.consistent
  inRange := steady.inRange
  room := steady.room
  unleased expiry held := Nat.le_trans (steady.unleased expiry held) passes
  overdue waits := Nat.le_trans (steady.overdue waits) passes
  active := Nat.le_trans steady.active passes

theorem Rested.mono (rested : policy.Rested now record) (passes : now ≤ later) :
    policy.Rested later record :=
  fun failed => Nat.le_trans (rested failed) passes

theorem Advances.steady (advances : policy.Advances ended record next)
    (steady : policy.Steady now record) (passes : now ≤ ended) : policy.Steady ended next where
  consistent := advances.consistent
  inRange := advances.inRange
  room := Nat.lt_of_le_of_lt advances.spent steady.room
  unleased := by
    rw [advances.unleased]
    exact nofun
  overdue waits := by
    have before : record.status = .pending ∨ record.status = .fetchFailed := by
      have forward := advances.rank
      revert waits forward
      cases record.status <;> cases next.status <;> simp [Status.rank]
    rw [advances.request.createdAt]
    exact Nat.le_trans (steady.overdue before) passes
  active := advances.active

theorem Steady.room_of_alive (steady : policy.Steady now record)
    (alive : record.status.isTerminal = false) : record.version + 2 < Width.bound64 := by
  have room := steady.room
  have left : 0 < policy.attemptsLeft record := attemptsLeft_pos alive
  omega

theorem Steady.isLeased (steady : policy.Steady now record) : record.isLeased now = false := by
  unfold Redemption.isLeased
  split
  · next expiry held => simpa using steady.unleased expiry held
  · rfl

theorem Rested.backoffElapsed (rested : policy.Rested now record) :
    record.backoffElapsed policy.backoff now = true := by
  unfold Redemption.backoffElapsed
  cases retryable : record.status.isRetryable with
  | false => rfl
  | true =>
      have waited := rested retryable
      simp only [Bool.not_true, Bool.false_or, decide_eq_true_eq]
      omega

theorem Steady.isOverdue (steady : policy.Steady now record) (reads : Phase.attestation.Reads record) :
    policy.isOverdue record now = true := by
  have late := steady.overdue reads
  unfold RetryPolicy.isOverdue
  rcases reads with status | status <;>
    simp only [status, Phase.waiting, Phase.retrying, Bool.and_eq_true, decide_eq_true_eq] <;>
    exact ⟨rfl, by omega⟩

end

end RetryPolicy

end RedemptionRelay
