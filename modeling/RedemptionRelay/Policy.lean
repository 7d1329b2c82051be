import RedemptionRelay.Redemption
import RedemptionRelay.Text.Duration

/-! # Retry policy

A phase may fail as often as there are retries, and once more; then the record
is given up. Before an external call the record is leased for the time limit of
the call and a margin on top, rounded up to whole seconds.
-/

namespace RedemptionRelay

structure RetryPolicy where
  maxRetries : Nat := 5
  /-- Seconds between a failure and the next attempt. -/
  backoff : Nat := 60
  /-- Seconds after the request past which a missing attestation is a failure. -/
  attestationDeadline : Nat := 86400
  fetchTimeout : Duration := .ofSeconds 30
  submitTimeout : Duration := .ofSeconds 120
  leaseMargin : Duration := .ofSeconds 30
deriving DecidableEq, Repr

/-- Which of the additions for a lease has no result. -/
inductive Overflow where
  /-- The time limit and the margin. -/
  | span
  /-- The last second that the lease begins. -/
  | rounding
  /-- The present second and the length of the lease. -/
  | expiry
deriving DecidableEq, Repr

def Overflow.message : Overflow → String
  | .span => "overflow when adding durations"
  | .rounding | .expiry => "attempt to add with overflow"

namespace RetryPolicy

def isExhausted (policy : RetryPolicy) (record : Redemption) : Bool :=
  record.status.isRetryable && policy.maxRetries < record.retryCount

def isOverdue (policy : RetryPolicy) (record : Redemption) (now : Nat) : Bool :=
  (record.status == .pending || record.status == .fetchFailed) &&
    min (record.dates.createdAt + policy.attestationDeadline) Redemption.maxTime ≤ now

/-- How long a call with this time limit holds its record. -/
def holdSeconds (policy : RetryPolicy) (timeout : Duration) : Nat :=
  Duration.ceilSeconds ⟨timeout.nanoseconds + policy.leaseMargin.nanoseconds⟩

/-- The end of a lease taken at `now`, unless it is past the end of time. -/
def leaseUntil? (policy : RetryPolicy) (timeout : Duration) (now : Nat) : Option Nat :=
  let expiry := now + policy.holdSeconds timeout
  if expiry ≤ Redemption.maxTime then some expiry else none

/-- What goes wrong with a lease that cannot be had. -/
def overflow (policy : RetryPolicy) (timeout : Duration) : Overflow :=
  let span : Duration := ⟨timeout.nanoseconds + policy.leaseMargin.nanoseconds⟩
  if Redemption.maxTime < span.wholeSeconds then .span
  else if Redemption.maxTime < span.ceilSeconds then .rounding
  else .expiry

end RetryPolicy

end RedemptionRelay
