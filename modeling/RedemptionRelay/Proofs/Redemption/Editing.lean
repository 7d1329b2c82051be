import RedemptionRelay.Proofs.Redemption.Traces
import RedemptionRelay.Redemption.Editing

/-! # Rejected edits

A change asks for its edge of the lifecycle before it writes anything. So an
edit is made as a whole or not at all: one that is turned down leaves every
field as it was, and a sequence of edits in which some are turned down comes to
the same as the others alone.
-/

namespace RedemptionRelay

namespace Redemption

/-- The answer to a change and the record after it, if one that is turned down
writes nothing. -/
def resolve (record : Redemption) :
    Except TransitionError Redemption → Except TransitionError Unit × Redemption
  | .ok next => (.ok (), next)
  | .error error => (.error error, record)

variable {record : Redemption} {mark : Mark} {now logged : Nat} {error : TransitionError}

theorem become_bind_eq_error {target : Status} {note : Redemption → Redemption} :
    (record.become target now >>= fun moved => pure (note moved)) = .error error ↔
      record.status.canBecome target = false ∧ error = ⟨record.status, target⟩ := by
  unfold become
  cases record.status.canBecome target with
  | true =>
      constructor
      · intro impossible
        cases impossible
      · intro impossible
        exact absurd impossible.1 (by simp)
  | false =>
      simp only [Bool.false_eq_true, if_false, true_and]
      exact ⟨fun same => (Except.error.inj same).symm, fun same => congrArg Except.error same.symm⟩

/-- Only a missing edge stops a change, and the error names it. -/
theorem apply_eq_error_iff :
    record.apply mark now logged = .error error ↔
      ∃ target, mark.target? = some target ∧ record.status.canBecome target = false ∧
        error = ⟨record.status, target⟩ := by
  cases mark <;>
    simp only [apply, markFetched, markFetchFailed, markCompleted, markSubmitFailed, markFailed,
      become_bind_eq_error, Mark.target?, Option.some.injEq, exists_eq_left', reduceCtorEq,
      false_and, exists_false]

end Redemption

/-! ## In place and at once -/

namespace Editing

variable {record : Redemption} {next : Status} {now logged : Nat}

theorem carryOut_log (message : String) :
    (log message logged).carryOut record = (.ok (), record.log logged message) := by
  unfold log
  simp only [carryOut_bind, carryOut_modify, carryOut_get]
  split
  · rfl
  · next fits =>
      have whole : (record.logs ++ [(⟨logged, message⟩ : LogEntry)]).length - logCapacity = 0 :=
        Nat.sub_eq_zero_of_le (Nat.le_of_not_lt fits)
      simp only [carryOut_pure, Redemption.log, whole, List.drop_zero]

theorem carryOut_become :
    (become next now).carryOut record = record.resolve (record.become next now) := by
  unfold become Redemption.become
  cases edge : record.status.canBecome next with
  | true => simp [edge, touch, Redemption.touch, Redemption.resolve]
  | false => simp [edge, Redemption.resolve]

theorem carryOut_become_then {rest : Editing Unit} {note : Redemption → Redemption}
    (completes : rest.carryOut (record.moved next now) = (.ok (), note (record.moved next now))) :
    (do become next now; rest).carryOut record =
      record.resolve (do let moved ← record.become next now; return note moved) := by
  rw [carryOut_bind, carryOut_become, Redemption.become]
  cases record.status.canBecome next with
  | true => exact completes
  | false => rfl

end Editing

theorem Edit.carryOut_change {record : Redemption} (mark : Mark) (now logged : Nat) :
    (Edit.change mark now logged).steps.carryOut record =
      record.resolve (record.apply mark now logged) := by
  cases mark with
  | claim leaseUntil => rfl
  | release => rfl
  | fetched payload =>
      apply Editing.carryOut_become_then
      simp only [Editing.carryOut_bind, Editing.carryOut_modify, Editing.carryOut_log]
      rfl
  | fetchFailed error | completed settlement | submitFailed error =>
      apply Editing.carryOut_become_then
      simp only [Editing.carryOut_bind, Editing.carryOut_modify, Editing.carryOut_get,
        Editing.carryOut_log]
      rfl
  | failed error =>
      apply Editing.carryOut_become_then
      simp only [Editing.carryOut_bind, Editing.carryOut_get]
      split
      · simp only [Editing.carryOut_bind, Editing.carryOut_modify, Editing.carryOut_log]
        rfl
      · next unchanged =>
          have fetched := Decidable.not_not.mp unchanged
          simp only [Editing.carryOut_bind, Editing.carryOut_modify, Editing.carryOut_log,
            if_pos fetched]
          rw [← fetched]
          rfl

/-! ## Sequences of edits -/

def Edit.target? : Edit → Option Status
  | .change mark _ _ => mark.target?
  | .note _ _ => none

structure Episode where
  before : Redemption
  edit : Edit
  answer : Except TransitionError Unit
  after : Redemption

namespace Redemption

def episode (record : Redemption) (edit : Edit) : Episode where
  before := record
  edit := edit
  answer := (edit.steps.carryOut record).1
  after := (edit.steps.carryOut record).2

/-- The edits are made one after the other, whatever the answers. -/
def episodes (record : Redemption) : List Edit → List Episode
  | [] => []
  | edit :: later => record.episode edit :: (record.episode edit).after.episodes later

def after (record : Redemption) (edits : List Edit) : Redemption :=
  edits.foldl (fun record edit => (record.episode edit).after) record

def accepted (record : Redemption) (edits : List Edit) : List Edit :=
  ((record.episodes edits).filter (·.answer.isOk)).map (·.edit)

end Redemption

structure Episode.AllOrNothing (episode : Episode) : Prop where
  /-- Only a missing edge turns an edit down. -/
  rejected_iff : ∀ error, episode.answer = .error error ↔
    ∃ target, episode.edit.target? = some target ∧
      episode.before.status.canBecome target = false ∧ error = ⟨episode.before.status, target⟩
  untouched : episode.answer.isOk = false → episode.after = episode.before
  whole : episode.answer.isOk = true → ∀ mark now logged, episode.edit = .change mark now logged →
    episode.before.apply mark now logged = .ok episode.after
  request : episode.after.SameRequest episode.before
  version : episode.after.version = episode.before.version
  moved : episode.answer.isOk = true → ∀ target ∈ episode.edit.target?,
    episode.after.status = target ∧ episode.after.leaseExpiresAt = none

namespace Redemption

variable (record : Redemption)

theorem resolve_eq_error_iff {result : Except TransitionError Redemption}
    {error : TransitionError} :
    (record.resolve result).1 = .error error ↔ result = .error error := by
  cases result <;> simp [resolve]

theorem moved_of_apply {next : Redemption} {mark : Mark} {now logged : Nat} {target : Status}
    (changed : record.apply mark now logged = .ok next) (moves : mark.target? = some target) :
    next.status = target ∧ next.leaseExpiresAt = none := by
  have status := status_of_apply changed
  rw [moves] at status
  have lease : mark.lease? = none := by
    cases mark with
    | claim leaseUntil => cases moves
    | _ => rfl
  exact ⟨status.2, (traces_of_apply changed).lease.trans lease⟩

theorem allOrNothing_change (mark : Mark) (now logged : Nat) :
    (record.episode (.change mark now logged)).AllOrNothing := by
  unfold episode
  rw [Edit.carryOut_change]
  have rejected (error : TransitionError) :
      (record.resolve (record.apply mark now logged)).1 = .error error ↔
        ∃ target, mark.target? = some target ∧ record.status.canBecome target = false ∧
          error = ⟨record.status, target⟩ :=
    record.resolve_eq_error_iff.trans apply_eq_error_iff
  cases applied : record.apply mark now logged with
  | error error =>
      rw [applied] at rejected
      exact ⟨rejected, fun _ => rfl, nofun, ⟨rfl, rfl, rfl, rfl⟩, rfl, nofun⟩
  | ok next =>
      rw [applied] at rejected
      have whole (mark' : Mark) (now' logged' : Nat)
          (same : Edit.change mark now logged = .change mark' now' logged') :
          record.apply mark' now' logged' = .ok next := by
        cases same
        exact applied
      exact ⟨rejected, nofun, fun _ => whole, sameRequest_of_apply applied,
        version_of_apply applied, fun _ _ moves => record.moved_of_apply applied moves⟩

theorem allOrNothing_note (message : String) (logged : Nat) :
    (record.episode (.note message logged)).AllOrNothing := by
  unfold episode Edit.steps
  rw [Editing.carryOut_log]
  refine ⟨fun error => ?_, nofun, fun _ _ _ _ => nofun, ⟨rfl, rfl, rfl, rfl⟩, rfl, fun _ _ => nofun⟩
  simp [Edit.target?]

theorem allOrNothing_episode (edit : Edit) : (record.episode edit).AllOrNothing := by
  cases edit with
  | change mark now logged => exact record.allOrNothing_change mark now logged
  | note message logged => exact record.allOrNothing_note message logged

variable {record}

theorem after_of_rejected {edit : Edit} (rejected : (record.episode edit).answer.isOk = false) :
    (record.episode edit).after = record :=
  (record.allOrNothing_episode edit).untouched rejected

theorem accepted_of_ok {edit : Edit} (isOk : (record.episode edit).answer.isOk = true)
    (later : List Edit) :
    record.accepted (edit :: later) = edit :: (record.episode edit).after.accepted later := by
  simp only [accepted, episodes, List.filter_cons, isOk, if_true, List.map_cons]
  rfl

theorem accepted_of_rejected {edit : Edit} (rejected : (record.episode edit).answer.isOk = false)
    (later : List Edit) : record.accepted (edit :: later) = record.accepted later := by
  simp only [accepted, episodes, List.filter_cons, rejected, after_of_rejected rejected,
    Bool.false_eq_true, if_false]

variable (record)

theorem episodes_accepted (edits : List Edit) :
    record.episodes (record.accepted edits) = (record.episodes edits).filter (·.answer.isOk) := by
  induction edits generalizing record with
  | nil => rfl
  | cons edit later induction =>
      cases answer : (record.episode edit).answer.isOk with
      | true =>
          rw [accepted_of_ok answer, episodes, episodes, induction, List.filter_cons, if_pos answer]
      | false =>
          rw [accepted_of_rejected answer, episodes, after_of_rejected answer, induction,
            List.filter_cons, answer]
          rfl

theorem after_accepted (edits : List Edit) :
    record.after (record.accepted edits) = record.after edits := by
  induction edits generalizing record with
  | nil => rfl
  | cons edit later induction =>
      cases answer : (record.episode edit).answer.isOk with
      | true =>
          rw [accepted_of_ok answer]
          exact induction (record.episode edit).after
      | false =>
          rw [accepted_of_rejected answer, induction, after, after, List.foldl_cons,
            after_of_rejected answer]

theorem allOrNothing_of_mem {edits : List Edit} {episode : Episode}
    (among : episode ∈ record.episodes edits) : episode.AllOrNothing := by
  induction edits generalizing record with
  | nil => cases among
  | cons edit later induction =>
      rcases List.mem_cons.mp among with rfl | among
      · exact record.allOrNothing_episode edit
      · exact induction _ among

/-- Each edit of a sequence is made as a whole or not at all, and those that are
turned down might as well not have been asked for. -/
theorem rejections_leave_no_trace (edits : List Edit) :
    (∀ episode ∈ record.episodes edits, episode.AllOrNothing) ∧
      record.episodes (record.accepted edits) = (record.episodes edits).filter (·.answer.isOk) ∧
      record.after (record.accepted edits) = record.after edits :=
  ⟨fun _ among => record.allOrNothing_of_mem among, record.episodes_accepted edits,
    record.after_accepted edits⟩

/-- A settlement before the attestation, a failed lookup after it, and a failure
after the end are turned down; the other edits are made. -/
theorem rejections_leave_no_trace_out_of_turn :
    ∃ (record : Redemption) (edits : List Edit) (episode : Episode),
      episode ∈ record.episodes edits ∧ episode.AllOrNothing ∧
      episode.answer = .error ⟨.fetched, .fetchFailed⟩ ∧ episode.after = episode.before ∧
      (record.episodes edits).map (·.answer.isOk) = [false, true, false, true, true, false] ∧
      record.after edits = record.after
        [.change (.fetched [7]) 3 3, .note "attested" 4, .change (.completed "0xb2") 5 6] := by
  let record := observed "sepolia" default 1 1
  let edits : List Edit := [
    .change (.completed "0xb1") 2 2, .change (.fetched [7]) 3 3, .change (.fetchFailed "late") 4 4,
    .note "attested" 4, .change (.completed "0xb2") 5 6, .change (.failed "again") 7 7]
  rcases record.rejections_leave_no_trace edits with ⟨whole, -, same⟩
  have kept : record.accepted edits =
      [.change (.fetched [7]) 3 3, .note "attested" 4, .change (.completed "0xb2") 5 6] := by
    decide
  have third : (record.episodes edits)[2] ∈ record.episodes edits := List.getElem_mem _
  have untouched := (whole _ third).untouched rfl
  exact ⟨record, edits, _, third, whole _ third, rfl, untouched, by decide, kept ▸ same.symm⟩

end Redemption

end RedemptionRelay
