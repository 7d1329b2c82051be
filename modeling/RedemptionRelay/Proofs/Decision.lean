import RedemptionRelay.Batch

/-! # What a decision says

A record is only attempted or given up while no lease is running. An attempt
holds the record for the limit of its call and the margin, in whole seconds from
the second of the decision.
-/

namespace RedemptionRelay

theorem Duration.le_ceilSeconds (duration : Duration) :
    duration.nanoseconds ≤ duration.ceilSeconds * nanosecondsPerSecond := by
  unfold ceilSeconds wholeSeconds nanosecondsPerSecond
  split <;> omega

theorem exhaustedMessage_ne_missingPayloadMessage {phase : Phase} {record : Redemption} :
    exhaustedMessage phase record ≠ missingPayloadMessage := by
  intro equal
  have sameStart := congrArg (fun text : String => text.toList.head?) equal
  cases phase <;>
    simp [exhaustedMessage, missingPayloadMessage, Phase.text, toString] at sameStart

namespace RetryPolicy

variable {policy : RetryPolicy} {phase : Phase} {record : Redemption} {now : Nat}

theorem unleased_of_decide {decision : Decision}
    (decided : policy.decide phase record now = decision) (free : decision ≠ .skip .leased) :
    record.isLeased now = false := by
  cases leased : record.isLeased now with
  | false => rfl
  | true => exact absurd (decided.symm.trans (by simp [decide, leased])) free

structure Attempts (policy : RetryPolicy) (phase : Phase) (record : Redemption) (now : Nat)
    (call : Call) (limit : Duration) (leaseUntil : Nat) : Prop where
  retriesLeft : policy.isExhausted record = false
  waited : record.backoffElapsed policy.backoff now = true
  isCall : call? phase record = some call
  isLimit : limit = policy.timeout phase
  isLease : leaseUntil = now + policy.holdSeconds limit

theorem attempts_of_decide {call : Call} {limit : Duration} {leaseUntil : Nat}
    (decided : policy.decide phase record now = .attempt call limit leaseUntil) :
    policy.Attempts phase record now call limit leaseUntil := by
  unfold decide at decided
  split at decided
  · cases decided
  · split at decided
    · cases decided
    · next retriesLeft =>
        split at decided
        · cases decided
        · next waited =>
            split at decided
            · cases decided
            · next call' isCall =>
                dsimp only [leaseUntil?] at decided
                split at decided
                · next leaseUntil' fits =>
                    cases decided
                    split at fits
                    · exact ⟨by simpa using retriesLeft, by simpa using waited, isCall, rfl,
                        (Option.some.inj fits).symm⟩
                    · cases fits
                · cases decided

theorem leaseUntil_le_of_decide {call : Call} {limit : Duration} {leaseUntil : Nat}
    (decided : policy.decide phase record now = .attempt call limit leaseUntil) :
    leaseUntil ≤ Redemption.maxTime := by
  unfold decide at decided
  split at decided
  · cases decided
  · split at decided
    · cases decided
    · split at decided
      · cases decided
      · split at decided
        · cases decided
        · dsimp only [leaseUntil?] at decided
          split at decided
          · next leaseUntil' fits =>
              cases decided
              split at fits
              · next inTime => exact Option.some.inj fits ▸ inTime
              · cases fits
          · cases decided

theorem leased_or_waiting_of_decide {reason : SkipReason}
    (decided : policy.decide phase record now = .skip reason) :
    record.isLeased now = true ∨ record.backoffElapsed policy.backoff now = false := by
  unfold decide at decided
  split at decided
  · next leased => exact .inl leased
  · split at decided
    · cases decided
    · split at decided
      · next waiting => exact .inr (by simpa using waiting)
      · split at decided
        · cases decided
        · dsimp only at decided
          split at decided <;> cases decided

theorem late_of_decide (decided : policy.decide phase record now = .overflow) :
    Redemption.maxTime < now + policy.holdSeconds (policy.timeout phase) := by
  unfold decide at decided
  split at decided
  · cases decided
  · split at decided
    · cases decided
    · split at decided
      · cases decided
      · split at decided
        · cases decided
        · dsimp only [leaseUntil?] at decided
          split at decided
          · cases decided
          · next unfit =>
              split at unfit
              · cases unfit
              · next late => exact Nat.lt_of_not_le late

theorem exhausted_or_missing_of_decide {error : String}
    (decided : policy.decide phase record now = .abandon error) :
    (policy.isExhausted record = true ∧ error = exhaustedMessage phase record) ∨
      (policy.isExhausted record = false ∧ error = missingPayloadMessage) := by
  unfold decide at decided
  split at decided
  · cases decided
  · split at decided
    · next exhausted => exact .inl ⟨exhausted, (Decision.abandon.inj decided).symm⟩
    · next retriesLeft =>
        split at decided
        · cases decided
        · split at decided
          · exact .inr ⟨by simpa using retriesLeft, (Decision.abandon.inj decided).symm⟩
          · dsimp only at decided
            split at decided <;> cases decided

theorem call?_eq_none_of_decide
    (decided : policy.decide phase record now = .abandon missingPayloadMessage) :
    call? phase record = none := by
  unfold decide at decided
  split at decided
  · cases decided
  · split at decided
    · exact absurd (Decision.abandon.inj decided) exhaustedMessage_ne_missingPayloadMessage
    · split at decided
      · cases decided
      · split at decided
        · assumption
        · dsimp only at decided
          split at decided <;> cases decided

/-- With the margin, the time limit of a lookup is longer than any duration. -/
def endless : RetryPolicy :=
  { maxRetries := 0, fetchTimeout := .ofSeconds Redemption.maxTime }

end RetryPolicy

end RedemptionRelay
