import RedemptionRelay.Proofs.Redemption.Changes

/-! # What a change leaves behind

Besides its own matter every change notes its time, takes or gives back the
lease, and counts the failures of the phase. The numbers it writes fit their
widths if the ones it is given do.
-/

namespace RedemptionRelay

namespace Mark

def lease? : Mark → Option Nat
  | .claim leaseUntil => some leaseUntil
  | _ => none

def retries : Mark → Nat → Nat
  | .fetched _, _ | .completed _, _ => 0
  | .fetchFailed _, before | .submitFailed _, before => before + 1
  | .claim _, before | .release, before | .failed _, before => before

theorem retries_le (mark : Mark) (before : Nat) : mark.retries before ≤ before + 1 := by
  cases mark <;> dsimp only [retries] <;> omega

end Mark

namespace Redemption

structure Traces (mark : Mark) (now : Nat) (record next : Redemption) : Prop where
  lastActivityAt : next.dates.lastActivityAt = now
  lease : next.leaseExpiresAt = mark.lease?
  retries : next.retryCount = mark.retries record.retryCount

variable {record next : Redemption} {mark : Mark} {now logged : Nat}

theorem traces_of_apply (changed : record.apply mark now logged = .ok next) :
    Traces mark now record next := by
  cases mark <;>
    simp only [apply, markFetched, markFetchFailed, markCompleted, markSubmitFailed, markFailed,
      become_bind_eq_ok, Except.ok.injEq] at changed
  case claim => subst changed; exact ⟨rfl, rfl, rfl⟩
  case release => subst changed; exact ⟨rfl, rfl, rfl⟩
  all_goals
    rcases changed with ⟨-, rfl⟩
    exact ⟨rfl, rfl, rfl⟩

/-! ## Widths -/

theorem lt_bound64_of_le_maxTime {time : Nat} (inTime : time ≤ maxTime) : time < Width.bound64 :=
  Nat.lt_of_le_of_lt inTime (by decide)

theorem InRange.withVersion (inRange : record.InRange) {version : Nat}
    (fits : version < Width.bound64) : { record with version := version }.InRange :=
  ⟨inRange.1, inRange.2.1, inRange.2.2.1, fits, inRange.2.2.2.2⟩

theorem inRange_log (inRange : record.InRange) (loggedFits : logged < Width.bound64)
    (message : String) : (record.log logged message).InRange := by
  rcases inRange with ⟨event, retries, lease, version, dates, logs⟩
  refine ⟨event, retries, lease, version, dates, fun entry among => ?_⟩
  rcases List.mem_append.mp (List.mem_of_mem_drop among) with before | here
  · exact logs entry before
  · exact List.mem_singleton.mp here ▸ loggedFits

theorem inRange_moved (inRange : record.InRange) (nowFits : now < Width.bound64) (target : Status) :
    (record.moved target now).InRange := by
  rcases inRange with ⟨event, retries, -, version, ⟨created, fetched, submitted, completed, -⟩, logs⟩
  exact ⟨event, retries, nofun, version, ⟨created, fetched, submitted, completed, nowFits⟩, logs⟩

theorem inRange_of_apply (inRange : record.InRange) (nowFits : now < Width.bound64)
    (loggedFits : logged < Width.bound64) (leaseFits : ∀ expiry ∈ mark.lease?, expiry < Width.bound64)
    (retriesFit : mark.retries record.retryCount < Width.bound32)
    (changed : record.apply mark now logged = .ok next) : next.InRange := by
  have moved := inRange_moved inRange nowFits
  cases mark with
  | claim leaseUntil =>
      cases changed
      rcases inRange with ⟨event, retries, -, version, ⟨created, fetched, submitted, completed, -⟩,
        logs⟩
      exact ⟨event, retries, leaseFits, version, ⟨created, fetched, submitted, completed, nowFits⟩,
        logs⟩
  | release =>
      cases changed
      exact moved record.status
  | fetched payload =>
      rcases become_bind_eq_ok.mp changed with ⟨-, rfl⟩
      rcases moved .fetched with ⟨event, -, lease, version, ⟨created, -, submitted, completed, active⟩,
        logs⟩
      refine inRange_log ?_ loggedFits _
      refine ⟨event, retriesFit, lease, version, ⟨created, ?_, submitted, completed, active⟩, logs⟩
      rintro time ⟨⟩
      exact nowFits
  | fetchFailed error =>
      rcases become_bind_eq_ok.mp changed with ⟨-, rfl⟩
      rcases moved .fetchFailed with ⟨event, -, others⟩
      refine inRange_log ?_ loggedFits _
      exact ⟨event, retriesFit, others⟩
  | completed settlement =>
      rcases become_bind_eq_ok.mp changed with ⟨-, rfl⟩
      rcases moved .completed with ⟨event, -, lease, version, ⟨created, fetched, -, -, active⟩, logs⟩
      refine inRange_log ?_ loggedFits _
      refine ⟨event, retriesFit, lease, version, ⟨created, fetched, ?_, ?_, active⟩, logs⟩
      · rintro time ⟨⟩
        exact nowFits
      · rintro time ⟨⟩
        exact nowFits
  | submitFailed error =>
      rcases become_bind_eq_ok.mp changed with ⟨-, rfl⟩
      rcases moved .submitFailed with ⟨event, -, others⟩
      refine inRange_log ?_ loggedFits _
      exact ⟨event, retriesFit, others⟩
  | failed error =>
      rcases become_bind_eq_ok.mp changed with ⟨-, rfl⟩
      exact inRange_log (moved .failed) loggedFits _

theorem inRange_claim {leaseUntil : Nat} (inRange : record.InRange) (nowFits : now < Width.bound64)
    (leaseFits : leaseUntil < Width.bound64) (versionFits : record.version + 1 < Width.bound64) :
    { record.claim leaseUntil now with version := record.version + 1 }.InRange := by
  have claims : record.apply (.claim leaseUntil) now now = .ok (record.claim leaseUntil now) := rfl
  have retries : (Mark.claim leaseUntil).retries record.retryCount < Width.bound32 := inRange.2.1
  refine .withVersion (inRange_of_apply inRange nowFits nowFits ?_ retries claims) versionFits
  rintro expiry ⟨⟩
  exact leaseFits

end Redemption

end RedemptionRelay
