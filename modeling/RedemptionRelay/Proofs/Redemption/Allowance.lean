import RedemptionRelay.Proofs.Decision
import RedemptionRelay.Proofs.Redemption.Budget
import RedemptionRelay.Proofs.Redemption.Succession

/-! # How often a phase may fail

A batch changes a record only within its budget, or to give it up because the
budget is spent. So a phase counts one failure more than there are retries, at
most, and the record is given up exactly when it has counted that many.
-/

namespace RedemptionRelay

/-! ## Failures on record -/

namespace Phase

/-- The failures of this phase among the states of one record: where the retry
count has grown. -/
def failures (phase : Phase) : List Redemption → Nat
  | earlier :: later :: records =>
      (if later.status = phase.retrying ∧ earlier.retryCount < later.retryCount then 1 else 0) +
        phase.failures (later :: records)
  | _ => 0

/-- How many failures of this phase a record can still see when it may count up
to `limit` of them. -/
def room (phase : Phase) (limit : Nat) (record : Redemption) : Nat :=
  if record.status.rank < phase.waiting.rank then limit
  else if record.status.rank = phase.waiting.rank then limit - record.retryCount
  else 0

theorem room_le (phase : Phase) (limit : Nat) (record : Redemption) :
    phase.room limit record ≤ limit := by
  unfold room
  split
  · exact Nat.le_refl _
  · split
    · exact Nat.sub_le _ _
    · exact Nat.zero_le _

theorem Reads.rank {phase : Phase} {record : Redemption} (reads : phase.Reads record) :
    record.status.rank = phase.waiting.rank := by
  rcases reads with status | status <;> rw [status]
  cases phase <;> rfl

theorem Reads.unique {left right : Phase} {record : Redemption} (leftReads : left.Reads record)
    (rightReads : right.Reads record) : left = right := by
  have same := leftReads.rank.symm.trans rightReads.rank
  cases left <;> cases right <;> first | rfl | cases same

end Phase

/-! ## What a batch may store -/

/-- The failure that is stored when the budget is spent. -/
structure Redemption.Exhausts (earlier later : Redemption) : Prop where
  failed : later.status = .failed
  message : ∃ phase : Phase, phase.Reads earlier ∧
    later.error = some (exhaustedMessage phase earlier)

namespace RetryPolicy

/-- The writes of a batch: a change of a record that may still be attempted, with
no word of a spent budget, or the failure of one whose budget is spent. -/
inductive Spends (policy : RetryPolicy) (earlier later : Redemption) : Prop where
  | within {phase : Phase} {mark : Mark} {now logged : Nat} {changed : Redemption}
      (reads : phase.Reads earlier) (retriesLeft : earlier.retryCount ≤ policy.maxRetries)
      (otherwise : mark ≠ .failed (exhaustedMessage phase earlier))
      (applied : earlier.apply mark now logged = .ok changed)
      (stored : later = { changed with version := earlier.version + 1 }) :
      Spends policy earlier later
  | beyond {phase : Phase} {now logged : Nat} {changed : Redemption}
      (reads : phase.Reads earlier) (spent : earlier.retryCount = policy.maxRetries + 1)
      (applied : earlier.apply (.failed (exhaustedMessage phase earlier)) now logged = .ok changed)
      (stored : later = { changed with version := earlier.version + 1 }) :
      Spends policy earlier later

end RetryPolicy

namespace Redemption

variable {record next : Redemption} {mark : Mark} {now logged : Nat}

theorem failed_of_apply (alive : record.status.isTerminal = false)
    (changed : record.apply mark now logged = .ok next) (failed : next.status = .failed) :
    ∃ error, mark = .failed error ∧ next.error = some error := by
  have status := status_of_apply changed
  cases mark with
  | failed error =>
      rcases become_bind_eq_ok.mp changed with ⟨-, rfl⟩
      exact ⟨error, rfl, rfl⟩
  | claim leaseUntil | release =>
      rw [← show next.status = record.status from status, failed] at alive
      cases alive
  | fetched payload | fetchFailed error | completed tx | submitFailed error =>
      exact nomatch status.2.symm.trans failed

end Redemption

namespace RetryPolicy

variable {policy : RetryPolicy} {phase : Phase} {earlier later record claimed : Redemption}

theorem conclude_ne_exhausted {call : Call} (isCall : call? phase record = some call)
    {started : Nat} {reply : Option call.Reply} :
    (policy.conclude claimed started call reply).1 ≠ .failed (exhaustedMessage phase claimed) := by
  intro equal
  -- The two texts of a phase part where one says `retry` and the other does not.
  cases phase with
  | attestation =>
      cases isCall
      rcases reply with - | (error | (payload | - | reason))
      · cases equal
      · cases equal
      · cases equal
      · dsimp only [conclude, concludeFetch] at equal
        split at equal <;> cases equal
      · have texts := congrArg (fun text : String => text.toList[12]?) (Mark.failed.inj equal)
        simp [exhaustedMessage, Phase.text, toString] at texts
  | settlement =>
      rcases Option.map_eq_some_iff.mp isCall with ⟨payload, -, rfl⟩
      rcases reply with - | (error | settlement)
      · cases equal
      · dsimp only [conclude, concludeSubmit] at equal
        split at equal
        · have texts := congrArg (fun text : String => text.toList[11]?) (Mark.failed.inj equal)
          simp [exhaustedMessage, Phase.text, toString] at texts
        · cases equal
      · cases equal

/-! ## What follows from the writes -/

namespace Spends

theorem applies (spends : policy.Spends earlier later) :
    ∃ mark now logged changed, earlier.apply mark now logged = .ok changed ∧
      later = { changed with version := earlier.version + 1 } := by
  cases spends with
  | within _ _ _ applied stored => exact ⟨_, _, _, _, applied, stored⟩
  | beyond _ _ applied stored => exact ⟨_, _, _, _, applied, stored⟩

theorem retryCount_le (spends : policy.Spends earlier later) :
    later.retryCount ≤ policy.maxRetries + 1 := by
  cases spends with
  | @within _ mark _ _ _ _ retriesLeft _ applied stored =>
      have counted := (Redemption.traces_of_apply applied).retries
      have atMost := mark.retries_le earlier.retryCount
      rw [stored]
      dsimp only
      omega
  | beyond _ spent applied stored =>
      have counted := (Redemption.traces_of_apply applied).retries
      rw [stored]
      exact Nat.le_of_eq (counted.trans spent)

theorem exhausts_iff (spends : policy.Spends earlier later) :
    earlier.Exhausts later ↔ earlier.retryCount = policy.maxRetries + 1 := by
  cases spends with
  | @within phase mark _ _ _ reads retriesLeft otherwise applied stored =>
      refine ⟨fun exhausts => absurd ?_ otherwise, fun spent => by omega⟩
      rcases exhausts with ⟨failed, phase', reads', message⟩
      cases reads.unique reads'
      rw [stored] at failed message
      rcases Redemption.failed_of_apply reads.alive applied failed with ⟨error, rfl, noted⟩
      cases noted.symm.trans message
      rfl
  | @beyond phase _ _ _ reads spent applied stored =>
      refine ⟨fun _ => spent, fun _ => ?_⟩
      have failed := (Redemption.status_of_apply applied).2
      rcases Redemption.failed_of_apply reads.alive applied failed with ⟨error, same, noted⟩
      rw [stored]
      exact ⟨failed, phase, reads, Mark.failed.inj same ▸ noted⟩

theorem room (spends : policy.Spends earlier later) (phase : Phase) :
    (if later.status = phase.retrying ∧ earlier.retryCount < later.retryCount then 1 else 0) +
      phase.room (policy.maxRetries + 1) later ≤ phase.room (policy.maxRetries + 1) earlier := by
  have atMost := spends.retryCount_le
  rcases spends.applies with ⟨mark, now, logged, changed, applied, rfl⟩
  have status := Redemption.status_of_apply applied
  have counted := (Redemption.traces_of_apply applied).retries
  dsimp only at atMost ⊢
  unfold Phase.room
  dsimp only
  rw [counted] at atMost ⊢
  cases mark with
  | claim leaseUntil | release =>
      have same : changed.status = earlier.status := status
      simp only [same, Mark.retries, Nat.lt_irrefl, and_false, if_false, Nat.zero_add, Nat.le_refl]
  | fetched payload | fetchFailed error | completed tx | submitFailed error | failed error =>
      rcases status with ⟨edge, same⟩
      rw [same]
      simp only [Mark.retries] at atMost ⊢
      revert edge
      cases earlier.status <;> cases phase <;>
        simp [Status.canBecome, Phase.waiting, Phase.retrying, Status.rank] <;> omega

end Spends

theorem failures_le {records : List Redemption} (linked : records.IsChain policy.Spends)
    (phase : Phase) : phase.failures records ≤ policy.maxRetries + 1 := by
  have fromFirst : ∀ first ∈ records.head?,
      phase.failures records ≤ phase.room (policy.maxRetries + 1) first := by
    induction linked with
    | nil | singleton => exact fun _ _ => Nat.zero_le _
    | @cons_cons earlier later records spends _ induction =>
        rintro _ ⟨⟩
        have rest := induction later rfl
        have here := spends.room phase
        simp only [Phase.failures]
        omega
  cases records with
  | nil => exact Nat.zero_le _
  | cons first later => exact Nat.le_trans (fromFirst first rfl) (phase.room_le _ _)

end RetryPolicy

end RedemptionRelay
