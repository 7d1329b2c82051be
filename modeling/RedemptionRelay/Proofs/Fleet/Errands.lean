import RedemptionRelay.Proofs.Fleet.Steps

/-! # Which worker handles which event

Every event that a listener has been told of is handled by one worker: the
workers that take events in have been launched in the order of the events. What
such a worker is about to store is the record of its own event.
-/

namespace RedemptionRelay

def Intake.Reports (listener : Listener) (raw : RawEvent) : Intake → Prop
  | .stamping chain event => chain = raw.chain ∧ listener.request raw = .ok event
  | .logging chain event _ => chain = raw.chain ∧ listener.request raw = .ok event
  | .creating record =>
      ∃ event now logged, listener.request raw = .ok event ∧
        record = Redemption.observed raw.chain event now logged
  | .announcing _ | .finished _ => True

namespace Intake

variable {intake next : Intake} {listener : Listener} {raw : RawEvent} {request : Request}
  {answer : request.Answer}

theorem reports_start : (start listener raw).Reports listener raw := by
  unfold start
  cases requested : listener.request raw with
  | ok event => exact ⟨rfl, requested⟩
  | error reason => trivial

theorem Reports.resume (reports : intake.Reports listener raw)
    (answered : intake.Answered request answer next) : next.Reports listener raw := by
  cases answered with
  | stamped => exact reports
  | logged =>
      rcases reports with ⟨rfl, requested⟩
      exact ⟨_, _, _, requested, rfl⟩
  | created | duplicate | uncreated | announced => trivial

end Intake

namespace Job

def isIntake : Job → Bool
  | .intake _ => true
  | .batch _ => false

def Reports (listener : Listener) (raw : RawEvent) : Job → Prop
  | .intake work => work.Reports listener raw
  | .batch _ => True

variable {job next : Job} {listener : Listener} {raw : RawEvent} {request : Request}
  {answer : request.Answer}

theorem isIntake_of_answered (answered : job.Answered request answer next) :
    next.isIntake = job.isIntake := by
  cases answered <;> rfl

theorem Reports.resume (reports : job.Reports listener raw)
    (answered : job.Answered request answer next) : next.Reports listener raw := by
  cases answered with
  | batch => trivial
  | intake answered => exact Intake.Reports.resume reports answered

end Job

namespace Fleet

variable {σ : Type}

def intakes (fleet : Fleet σ) : List Bool :=
  fleet.members.map (·.job.isIntake)

/-- The worker was launched to take this event in. -/
def Handles (fleet : Fleet σ) (index : Nat) (listener : Listener) (raw : RawEvent) : Prop :=
  fleet.intakes[index]? = some true ∧
    fleet.events[(fleet.intakes.take index).count true]? = some (listener, raw)

variable {fleet : Fleet σ} {index other : Nat} {member after : Member} {store : σ}
  {deeds : List Deed} {job : Job} {listener : Listener} {raw : RawEvent}

theorem intakes_joined : (fleet.joined job).intakes = fleet.intakes ++ [job.isIntake] := by
  simp [intakes, joined]

theorem intakes_replaced (there : fleet.members[index]? = some member)
    (same : after.job.isIntake = member.job.isIntake) :
    (fleet.replaced index after store deeds).intakes = fleet.intakes := by
  refine List.ext_getElem? fun other => ?_
  simp only [intakes, replaced, List.getElem?_map, List.getElem?_set]
  by_cases here : index = other
  · subst here
    rcases List.getElem?_eq_some_iff.mp there with ⟨inside, rfl⟩
    simp [inside, same]
  · simp [here]

theorem last_of_joined (found : (fleet.joined job).members[index]? = some member)
    (isNew : fleet.members[index]? ≠ some member) : index = fleet.members.length := by
  simp only [joined, List.getElem?_append] at found
  split at found
  · exact absurd found isNew
  · have inside := (List.getElem?_eq_some_iff.mp found).1
    rw [List.length_singleton] at inside
    omega

/-! ## Staff -/

/-- For every event there is one worker, who reports it. -/
structure Staffed (fleet : Fleet σ) : Prop where
  one : fleet.events.length = fleet.intakes.count true
  reports : ∀ index (member : Member), fleet.members[index]? = some member →
    member.job.isIntake = true →
      ∃ listener raw, fleet.Handles index listener raw ∧ member.job.Reports listener raw

/-- Workers, events and deeds are only ever added. -/
structure Grows (fleet next : Fleet σ) : Prop where
  intakes : fleet.intakes <+: next.intakes
  events : fleet.events <+: next.events
  history : fleet.history <+: next.history

theorem place_of_grown {α : Type} {earlier later : List α} {place : Nat} {entry : α}
    (grows : earlier <+: later) (there : earlier[place]? = some entry) :
    later[place]? = some entry ∧ later.take place = earlier.take place := by
  rcases grows with ⟨more, rfl⟩
  have inside := (List.getElem?_eq_some_iff.mp there).1
  exact ⟨(List.getElem?_append_left inside).trans there,
    List.take_append_of_le_length (Nat.le_of_lt inside)⟩

theorem Handles.grow {next : Fleet σ} (handles : fleet.Handles index listener raw)
    (grows : fleet.Grows next) : next.Handles index listener raw := by
  rcases place_of_grown grows.intakes handles.1 with ⟨isIntake, sameBefore⟩
  rw [Handles, sameBefore]
  exact ⟨isIntake, (place_of_grown grows.events handles.2).1⟩

theorem handles_last (one : fleet.events.length = fleet.intakes.count true)
    (isIntake : job.isIntake = true) :
    ((fleet.told listener raw).joined job).Handles fleet.members.length listener raw := by
  have last : fleet.members.length = fleet.intakes.length := by simp [intakes]
  have staff : ((fleet.told listener raw).joined job).intakes = fleet.intakes ++ [true] := by
    rw [intakes_joined, isIntake]
    rfl
  refine ⟨?_, ?_⟩
  · rw [staff, last, List.getElem?_concat_length]
  · rw [staff, last, List.take_left, ← one]
    exact List.getElem?_concat_length

theorem staffed_initial (store : σ) (clock : Nat) : (initial store clock).Staffed where
  one := rfl
  reports _ _ impossible := nomatch impossible

variable [Store σ]

theorem Acts.isIntake {action : Action} (acts : fleet.Acts member action after store deeds) :
    after.job.isIntake = member.job.isIntake := by
  cases acts with
  | proceeded _ answered =>
      rw [Member.job_goOn]
      exact Job.isIntake_of_answered answered
  | failed _ answered => exact Job.isIntake_of_answered answered
  | heard _ _ _ answered => exact Job.isIntake_of_answered answered
  | called | unheard | halted => rfl

theorem Acts.reports {action : Action} (acts : fleet.Acts member action after store deeds)
    (reports : member.job.Reports listener raw) : after.job.Reports listener raw := by
  cases acts with
  | proceeded _ answered =>
      rw [Member.job_goOn]
      exact reports.resume answered
  | failed _ answered => exact reports.resume answered
  | heard _ _ _ answered => exact reports.resume answered
  | called | unheard | halted => exact reports

theorem grows_of_steps {next : Fleet σ} {move : Move} (steps : fleet.Steps move next) :
    fleet.Grows next := by
  cases steps with
  | passed => exact ⟨List.prefix_rfl, List.prefix_rfl, List.prefix_rfl⟩
  | batchLaunched =>
      exact ⟨intakes_joined ▸ List.prefix_append _ _, List.prefix_rfl, List.prefix_rfl⟩
  | intakeLaunched =>
      exact ⟨intakes_joined ▸ List.prefix_append _ _, List.prefix_append _ _, List.prefix_rfl⟩
  | acted there acts =>
      exact ⟨intakes_replaced there acts.isIntake ▸ List.prefix_rfl, List.prefix_rfl,
        List.prefix_append _ _⟩

theorem Staffed.step {next : Fleet σ} {move : Move} (staffed : fleet.Staffed)
    (steps : fleet.Steps move next) : next.Staffed := by
  have kept : ∀ index (member : Member), fleet.members[index]? = some member →
      member.job.isIntake = true →
        ∃ listener raw, next.Handles index listener raw ∧ member.job.Reports listener raw := by
    intro index member there isIntake
    rcases staffed.reports index member there isIntake with ⟨listener, raw, handles, reports⟩
    exact ⟨listener, raw, handles.grow (grows_of_steps steps), reports⟩
  cases steps with
  | passed => exact ⟨staffed.one, kept⟩
  | batchLaunched =>
      constructor
      · rw [intakes_joined, List.count_append]
        exact staffed.one
      · intro index member found isIntake
        rcases getElem?_joined found with rfl | before
        · cases isIntake
        · exact kept index member before isIntake
  | @intakeLaunched listener raw =>
      constructor
      · rw [intakes_joined, List.count_append]
        exact (List.length_append).trans (congrArg (· + 1) staffed.one)
      · intro index member found isIntake
        by_cases before : fleet.members[index]? = some member
        · exact kept index member before isIntake
        · cases last_of_joined found before
          rcases getElem?_joined found with rfl | impossible
          · exact ⟨listener, raw, handles_last staffed.one rfl, Intake.reports_start⟩
          · exact absurd impossible before
  | @acted index member after action store deeds there acts =>
      constructor
      · rw [intakes_replaced there acts.isIntake]
        exact staffed.one
      · intro other member' found isIntake
        rcases getElem?_replaced there found with ⟨rfl, rfl⟩ | ⟨-, before⟩
        · rw [acts.isIntake] at isIntake
          rcases kept _ _ there isIntake with ⟨listener, raw, handles, reports⟩
          exact ⟨listener, raw, handles, acts.reports reports⟩
        · exact kept other member' before isIntake

theorem Run.staffed {allowed : Fleet σ → Move → Prop} {clock : Nat}
    (run : Run allowed (initial store clock) fleet) : fleet.Staffed := by
  induction run with
  | rest => exact staffed_initial store clock
  | move move _ _ step staffed => exact staffed.step (steps_of_step? step)

end Fleet

end RedemptionRelay
