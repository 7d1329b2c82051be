import Mathlib.Data.List.Chain
import Mathlib.Data.List.Nodup
import RedemptionRelay.Proofs.Redemption.Changes

/-! # How a stored record follows another

The store replaces a record by one change of it, with the next version. Along
such a succession the versions grow, progress is never lost, and a record that
has ended is the last one.
-/

namespace RedemptionRelay

namespace Redemption

/-- One change has been applied to a record that has not ended, and the store
has given the result the next version. -/
def Precedes (earlier later : Redemption) : Prop :=
  earlier.status.isTerminal = false ∧
    ∃ mark now logged changed, earlier.apply mark now logged = .ok changed ∧
      later = { changed with version := earlier.version + 1 }

/-- Any number of changes, and at least one. -/
structure Before (earlier later : Redemption) : Prop where
  version : earlier.version < later.version
  rank : earlier.status.rank ≤ later.status.rank
  alive : earlier.status.isTerminal = false
  request : later.SameRequest earlier

theorem Before.trans {first second third : Redemption} (left : first.Before second)
    (right : second.Before third) : first.Before third where
  version := Nat.lt_trans left.version right.version
  rank := Nat.le_trans left.rank right.rank
  alive := left.alive
  request := right.request.trans left.request

instance : Trans Before Before Before where
  trans := Before.trans

variable {earlier later : Redemption}

theorem Precedes.version (precedes : earlier.Precedes later) :
    later.version = earlier.version + 1 := by
  rcases precedes with ⟨-, _, _, _, _, -, rfl⟩
  rfl

theorem Precedes.before (precedes : earlier.Precedes later) : earlier.Before later := by
  rcases precedes with ⟨alive, _, _, _, changed, applied, rfl⟩
  have progress := rank_le_of_apply applied
  have same := sameRequest_of_apply applied
  exact ⟨Nat.lt_succ_self _, progress, alive, ⟨same.id, same.chain, same.event, same.createdAt⟩⟩

theorem Precedes.id (precedes : earlier.Precedes later) : later.id = earlier.id :=
  precedes.before.request.id

theorem pairwise_before {records : List Redemption} (linked : records.IsChain Precedes) :
    records.Pairwise Before :=
  (linked.imp fun _ _ precedes => precedes.before).pairwise

theorem eq_or_before_last {records : List Redemption} (ordered : records.Pairwise Before)
    {record last : Redemption} (among : record ∈ records) (isLast : records.getLast? = some last) :
    record = last ∨ record.Before last := by
  rcases List.getLast?_eq_some_iff.mp isLast with ⟨earlier, rfl⟩
  rcases List.mem_append.mp among with before | here
  · exact .inr ((List.pairwise_append.mp ordered).2.2 _ before _ (List.mem_singleton_self _))
  · exact .inl (List.mem_singleton.mp here)

theorem eq_of_version {records : List Redemption} (linked : records.IsChain Precedes)
    {left right : Redemption} (leftThere : left ∈ records) (rightThere : right ∈ records)
    (sameVersion : left.version = right.version) : left = right := by
  have distinct : (records.map (·.version)).Nodup := by
    rw [List.Nodup, List.pairwise_map]
    exact (pairwise_before linked).imp fun before => Nat.ne_of_lt before.version
  exact List.inj_on_of_nodup_map distinct leftThere rightThere sameVersion

end Redemption

end RedemptionRelay
