import RedemptionRelay.Proofs.Redemption.Changes

/-! # Consistent records

The parts of a record hang together: its phase says which of them are there. A
new record is consistent, and every change of a record that has not ended keeps
it so.
-/

namespace RedemptionRelay

namespace Redemption

structure Consistent (record : Redemption) : Prop where
  payload_iff_fetched : record.payload.isSome ↔ record.attestation = .fetched
  fetched_iff_fetchedAt :
    record.attestation = .fetched ↔ record.dates.attestationFetchedAt.isSome
  payload_present :
    record.status = .fetched ∨ record.status = .submitFailed ∨ record.status = .completed →
      record.payload.isSome
  payload_absent :
    record.status = .pending ∨ record.status = .fetchFailed → record.payload = none
  attestation_pending_iff : record.attestation = .pending ↔ record.status = .pending
  settlement_iff_completed : record.settlement.isSome ↔ record.status = .completed
  submittedAt_iff_completed :
    record.dates.settlementSubmittedAt.isSome ↔ record.status = .completed
  completedAt_iff_completed : record.dates.completedAt.isSome ↔ record.status = .completed
  error_iff_failure :
    record.error.isSome ↔
      record.status = .fetchFailed ∨ record.status = .submitFailed ∨ record.status = .failed
  no_attempts :
    record.status = .pending ∨ record.status = .fetched ∨ record.status = .completed →
      record.retryCount = 0
  some_attempts :
    record.status = .fetchFailed ∨ record.status = .submitFailed → 1 ≤ record.retryCount
  no_lease : record.status = .completed ∨ record.status = .failed → record.leaseExpiresAt = none

theorem consistent_observed (chain : String) (event : Event) (now logged : Nat) :
    (observed chain event now logged).Consistent := by
  constructor <;> simp [observed, log]

variable {record next : Redemption} {mark : Mark} {now logged : Nat}

theorem Consistent.withVersion (consistent : record.Consistent) (version : Nat) :
    { record with version := version }.Consistent :=
  { consistent with }

theorem consistent_claim (consistent : record.Consistent) (alive : record.status.isTerminal = false)
    (leaseUntil : Nat) : (record.claim leaseUntil now).Consistent := by
  refine { consistent with no_lease := ?_ }
  rintro (ended | ended) <;> rw [show record.status = _ from ended] at alive <;> cases alive

theorem consistent_release (consistent : record.Consistent) : (record.release now).Consistent :=
  { consistent with no_lease := fun _ => rfl }

theorem Consistent.unsettled (consistent : record.Consistent)
    (alive : record.status.isTerminal = false) :
    record.settlement = none ∧ record.dates.settlementSubmittedAt = none ∧
      record.dates.completedAt = none := by
  have notCompleted : record.status ≠ .completed := by
    intro completed
    rw [completed] at alive
    cases alive
  refine ⟨?_, ?_, ?_⟩ <;> rw [← Option.not_isSome_iff_eq_none]
  · exact fun settled => notCompleted (consistent.settlement_iff_completed.mp settled)
  · exact fun submitted => notCompleted (consistent.submittedAt_iff_completed.mp submitted)
  · exact fun completed => notCompleted (consistent.completedAt_iff_completed.mp completed)

theorem Consistent.attested (consistent : record.Consistent)
    (ready : record.status = .fetched ∨ record.status = .submitFailed) :
    record.payload.isSome ∧ record.attestation = .fetched ∧
      record.dates.attestationFetchedAt.isSome := by
  have payload : record.payload.isSome :=
    consistent.payload_present (ready.imp_right .inl)
  have fetched := consistent.payload_iff_fetched.mp payload
  exact ⟨payload, fetched, consistent.fetched_iff_fetchedAt.mp fetched⟩

theorem Consistent.unattested (consistent : record.Consistent)
    (waiting : record.status = .pending ∨ record.status = .fetchFailed) :
    record.payload = none ∧ record.dates.attestationFetchedAt = none := by
  have payload := consistent.payload_absent waiting
  refine ⟨payload, ?_⟩
  rw [← Option.not_isSome_iff_eq_none, ← consistent.fetched_iff_fetchedAt,
    ← consistent.payload_iff_fetched, payload]
  simp

/-- A record is only ever moved forward: what its phase before the change says
about its parts settles what they are after it. -/
theorem Consistent.of_apply (consistent : record.Consistent)
    (alive : record.status.isTerminal = false)
    (changed : record.apply mark now logged = .ok next) : next.Consistent := by
  rcases consistent.unsettled alive with ⟨settlement, submittedAt, completedAt⟩
  cases mark with
  | claim leaseUntil =>
      cases changed
      exact consistent_claim consistent alive leaseUntil
  | release =>
      cases changed
      exact consistent_release consistent
  | fetched payload =>
      rcases become_bind_eq_ok.mp changed with ⟨-, rfl⟩
      constructor <;> simp [moved, touch, log, settlement, submittedAt, completedAt]
  | fetchFailed error =>
      rcases become_bind_eq_ok.mp changed with ⟨edge, rfl⟩
      have waiting : record.status = .pending ∨ record.status = .fetchFailed := by
        revert edge
        cases record.status <;> simp [Status.canBecome]
      rcases consistent.unattested waiting with ⟨payload, fetchedAt⟩
      constructor <;>
        simp [moved, touch, log, settlement, submittedAt, completedAt, payload, fetchedAt]
  | completed tx =>
      rcases become_bind_eq_ok.mp changed with ⟨edge, rfl⟩
      have ready : record.status = .fetched ∨ record.status = .submitFailed := by
        revert edge
        cases record.status <;> simp [Status.canBecome]
      rcases consistent.attested ready with ⟨payload, fetched, fetchedAt⟩
      constructor <;> simp [moved, touch, log, payload, fetched, fetchedAt]
  | submitFailed error =>
      rcases become_bind_eq_ok.mp changed with ⟨edge, rfl⟩
      have ready : record.status = .fetched ∨ record.status = .submitFailed := by
        revert edge
        cases record.status <;> simp [Status.canBecome]
      rcases consistent.attested ready with ⟨payload, fetched, fetchedAt⟩
      constructor <;>
        simp [moved, touch, log, settlement, submittedAt, completedAt, payload, fetched, fetchedAt]
  | failed error =>
      rcases become_bind_eq_ok.mp changed with ⟨-, rfl⟩
      have same := consistent.payload_iff_fetched
      have sameTime := consistent.fetched_iff_fetchedAt
      -- Whether the attestation was there decides what the record says of it.
      by_cases fetched : record.attestation = .fetched <;> constructor <;>
        simp [moved, touch, log, settlement, submittedAt, completedAt, same, ← sameTime, fetched]

end Redemption

end RedemptionRelay
