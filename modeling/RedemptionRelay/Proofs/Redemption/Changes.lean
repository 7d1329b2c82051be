import RedemptionRelay.Redemption

/-! # What a change keeps

A change never touches what was requested, nor the version, which belongs to
the store. A change that moves the record goes along an edge of the lifecycle,
so progress is never lost, and a record that has ended cannot be moved.
-/

namespace RedemptionRelay

namespace Status

theorem rank_le_of_canBecome {status next : Status} (edge : status.canBecome next = true) :
    status.rank ≤ next.rank := by
  revert edge
  cases status <;> cases next <;> decide

end Status

def Mark.target? : Mark → Option Status
  | .claim _ | .release => none
  | .fetched _ => some .fetched
  | .fetchFailed _ => some .fetchFailed
  | .completed _ => some .completed
  | .submitFailed _ => some .submitFailed
  | .failed _ => some .failed

namespace Redemption

/-- Two states of the record of one request. -/
structure SameRequest (left right : Redemption) : Prop where
  id : left.id = right.id
  chain : left.chain = right.chain
  event : left.event = right.event
  createdAt : left.dates.createdAt = right.dates.createdAt

namespace SameRequest

theorem symm {left right : Redemption} (same : SameRequest left right) : SameRequest right left :=
  ⟨same.id.symm, same.chain.symm, same.event.symm, same.createdAt.symm⟩

theorem trans {first second third : Redemption} (left : SameRequest first second)
    (right : SameRequest second third) : SameRequest first third :=
  ⟨left.id.trans right.id, left.chain.trans right.chain, left.event.trans right.event,
    left.createdAt.trans right.createdAt⟩

end SameRequest

def moved (record : Redemption) (next : Status) (now : Nat) : Redemption :=
  { record with status := next, leaseExpiresAt := none }.touch now

theorem become_bind_eq_ok {record next : Redemption} {target : Status} {now : Nat}
    {note : Redemption → Redemption} :
    (record.become target now >>= fun moved => pure (note moved)) = .ok next ↔
      record.status.canBecome target = true ∧ note (record.moved target now) = next := by
  unfold become
  cases edge : record.status.canBecome target with
  | true =>
      simp only [if_true, true_and]
      exact ⟨fun same => Except.ok.inj same, fun same => congrArg Except.ok same⟩
  | false =>
      constructor
      · intro impossible
        cases impossible
      · intro impossible
        exact absurd impossible.1 (by simp)

variable {record next : Redemption} {mark : Mark} {now logged : Nat}

theorem sameRequest_of_apply (changed : record.apply mark now logged = .ok next) :
    next.SameRequest record := by
  cases mark <;>
    simp only [apply, markFetched, markFetchFailed, markCompleted, markSubmitFailed, markFailed,
      become_bind_eq_ok, Except.ok.injEq] at changed
  case claim => subst changed; exact ⟨rfl, rfl, rfl, rfl⟩
  case release => subst changed; exact ⟨rfl, rfl, rfl, rfl⟩
  all_goals
    rcases changed with ⟨-, rfl⟩
    exact ⟨rfl, rfl, rfl, rfl⟩

theorem version_of_apply (changed : record.apply mark now logged = .ok next) :
    next.version = record.version := by
  cases mark <;>
    simp only [apply, markFetched, markFetchFailed, markCompleted, markSubmitFailed, markFailed,
      become_bind_eq_ok, Except.ok.injEq] at changed
  case claim => subst changed; rfl
  case release => subst changed; rfl
  all_goals
    rcases changed with ⟨-, rfl⟩
    rfl

theorem status_of_apply (changed : record.apply mark now logged = .ok next) :
    match mark.target? with
    | none => next.status = record.status
    | some target => record.status.canBecome target = true ∧ next.status = target := by
  cases mark <;>
    simp only [apply, markFetched, markFetchFailed, markCompleted, markSubmitFailed, markFailed,
      become_bind_eq_ok, Except.ok.injEq] at changed
  case claim => subst changed; rfl
  case release => subst changed; rfl
  all_goals
    rcases changed with ⟨edge, rfl⟩
    exact ⟨edge, rfl⟩

theorem rank_le_of_apply (changed : record.apply mark now logged = .ok next) :
    record.status.rank ≤ next.status.rank := by
  have status := status_of_apply changed
  cases target : mark.target? with
  | none =>
      simp only [target] at status
      exact Nat.le_of_eq (congrArg Status.rank status.symm)
  | some target' =>
      simp only [target] at status
      rw [status.2]
      exact Status.rank_le_of_canBecome status.1

theorem exists_apply_of_canBecome
    (edge : ∀ target ∈ mark.target?, record.status.canBecome target) :
    ∃ next, record.apply mark now logged = .ok next := by
  cases mark <;>
    simp only [apply, markFetched, markFetchFailed, markCompleted, markSubmitFailed, markFailed,
      become_bind_eq_ok, Except.ok.injEq]
  case claim => exact ⟨_, rfl⟩
  case release => exact ⟨_, rfl⟩
  all_goals exact ⟨_, edge _ rfl, rfl⟩

end Redemption

end RedemptionRelay
