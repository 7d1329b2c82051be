import RedemptionRelay.Proofs.Redemption.Editing

/-! # What the trail retains

The trail of a record is the newest part of all that was ever appended to it. A
record may come with a longer trail than is kept; the first entry that is
appended cuts it to measure.
-/

namespace RedemptionRelay

/-! ## The newest entries -/

/-- The last entries of the whole, as many as are kept. -/
structure IsNewest (kept whole : List LogEntry) : Prop where
  suffix : kept <:+ whole
  length : kept.length = min 50 whole.length

/-- Nothing that is to be kept of the whole is missing. -/
structure Covers (kept whole : List LogEntry) : Prop where
  suffix : kept <:+ whole
  length : min 50 whole.length ≤ kept.length

theorem covers_self (whole : List LogEntry) : Covers whole whole :=
  ⟨List.suffix_rfl, Nat.min_le_right _ _⟩

theorem IsNewest.covers {kept whole : List LogEntry} (newest : IsNewest kept whole) :
    Covers kept whole :=
  ⟨newest.suffix, Nat.le_of_eq newest.length.symm⟩

theorem isNewest_singleton (entry : LogEntry) : IsNewest [entry] [entry] :=
  ⟨List.suffix_rfl, rfl⟩

theorem Covers.isNewest_log {record : Redemption} {whole : List LogEntry}
    (covers : Covers record.logs whole) (logged : Nat) (message : String) :
    IsNewest (record.log logged message).logs (whole ++ [⟨logged, message⟩]) := by
  rcases covers with ⟨⟨older, rfl⟩, enough⟩
  constructor
  · have extended : record.logs ++ [(⟨logged, message⟩ : LogEntry)] <:+
        older ++ record.logs ++ [⟨logged, message⟩] := by
      rw [List.append_assoc]
      exact List.suffix_append _ _
    exact (List.drop_suffix _ _).trans extended
  · simp only [Redemption.log, logCapacity, List.length_drop, List.length_append,
      List.length_singleton] at enough ⊢
    omega

/-! ## The entries of edits -/

/-- What a change writes on the trail; `failures` counts those of the phase, with
this one. -/
def Mark.message? (mark : Mark) (failures : Nat) : Option String :=
  match mark with
  | .claim _ | .release => none
  | .fetched _ => some "attestation fetched"
  | .fetchFailed error => some s!"attestation fetch failed (attempt {failures}): {error}"
  | .completed settlement => some s!"settlement submitted: {settlement}"
  | .submitFailed error => some s!"settlement failed (attempt {failures}): {error}"
  | .failed error => some s!"failed: {error}"

def Edit.added? (record : Redemption) : Edit → Option LogEntry
  | .change mark _ logged => (mark.message? (mark.retries record.retryCount)).map (⟨logged, ·⟩)
  | .note message logged => some ⟨logged, message⟩

def Episode.added? (episode : Episode) : Option LogEntry :=
  if episode.answer.isOk then episode.edit.added? episode.before else none

namespace Redemption

def appended (record : Redemption) (edits : List Edit) : List LogEntry :=
  (record.episodes edits).filterMap (·.added?)

variable {record next : Redemption} {whole : List LogEntry}

theorem logs_of_apply {mark : Mark} {now logged : Nat}
    (changed : record.apply mark now logged = .ok next) :
    next.logs =
      match mark.message? (mark.retries record.retryCount) with
      | some message => (record.log logged message).logs
      | none => record.logs := by
  cases mark with
  | claim | release =>
      cases changed
      rfl
  | fetched | fetchFailed | completed | submitFailed | failed =>
      rcases become_bind_eq_ok.mp changed with ⟨-, rfl⟩
      rfl

end Redemption

/-! ## One edit after the other -/

/-- The trail after something has been appended to one that covers the whole. -/
structure Retained (whole added before after : List LogEntry) : Prop where
  idle : added = [] → after = before
  newest : added ≠ [] → IsNewest after (whole ++ added)

namespace Retained

variable {whole added before after : List LogEntry}

theorem nothing (trail : List LogEntry) : Retained whole [] trail trail :=
  ⟨fun _ => rfl, fun something => absurd rfl something⟩

theorem covers (retained : Retained whole added before after) (enough : Covers before whole) :
    Covers after (whole ++ added) := by
  by_cases nothing : added = []
  · rw [retained.idle nothing, nothing, List.append_nil]
    exact enough
  · exact (retained.newest nothing).covers

theorem trans {later last : List LogEntry} (first : Retained whole added before after)
    (second : Retained (whole ++ added) later after last) :
    Retained whole (added ++ later) before last := by
  constructor
  · intro nothing
    rcases List.append_eq_nil_iff.mp nothing with ⟨noneFirst, noneLater⟩
    exact (second.idle noneLater).trans (first.idle noneFirst)
  · intro something
    rw [← List.append_assoc]
    by_cases nothing : later = []
    · rw [nothing, List.append_nil] at something ⊢
      rw [second.idle nothing]
      exact first.newest something
    · exact second.newest nothing

end Retained

namespace Redemption

variable {record next : Redemption} {whole : List LogEntry}

theorem retained_log (enough : Covers record.logs whole) (logged : Nat) (message : String) :
    Retained whole [⟨logged, message⟩] record.logs (record.log logged message).logs :=
  ⟨nofun, fun _ => enough.isNewest_log logged message⟩

theorem retained_apply {mark : Mark} {now logged : Nat} (enough : Covers record.logs whole)
    (changed : record.apply mark now logged = .ok next) :
    Retained whole ((Edit.change mark now logged).added? record).toList record.logs next.logs := by
  have logs := logs_of_apply changed
  rw [Edit.added?]
  cases message : mark.message? (mark.retries record.retryCount) with
  | none =>
      rw [message] at logs
      rw [logs]
      exact .nothing record.logs
  | some text =>
      rw [message] at logs
      rw [logs]
      exact retained_log enough logged text

theorem retained_episode (enough : Covers record.logs whole) (edit : Edit) :
    Retained whole (record.episode edit).added?.toList record.logs
      (record.episode edit).after.logs := by
  unfold Episode.added? episode
  cases edit with
  | note message logged =>
      rw [show (Edit.note message logged).steps = Editing.log message logged from rfl,
        Editing.carryOut_log]
      exact retained_log enough logged message
  | change mark now logged =>
      rw [Edit.carryOut_change]
      cases applied : record.apply mark now logged with
      | error error => exact .nothing record.logs
      | ok next => exact retained_apply enough applied

theorem appended_cons (edit : Edit) (later : List Edit) :
    record.appended (edit :: later) =
      (record.episode edit).added?.toList ++ (record.episode edit).after.appended later := by
  unfold appended
  rw [episodes, List.filterMap_cons]
  cases (record.episode edit).added? <;> rfl

theorem retained_edits (enough : Covers record.logs whole) (edits : List Edit) :
    Retained whole (record.appended edits) record.logs (record.after edits).logs := by
  induction edits generalizing record whole with
  | nil => exact .nothing record.logs
  | cons edit later induction =>
      have first := retained_episode enough edit
      rw [appended_cons]
      exact first.trans (induction (first.covers enough))

end Redemption

end RedemptionRelay
