import RedemptionRelay.Proofs.Fleet.Reception

/-! # Runs without some of the workers

A worker that has made no record of its event might as well never have been
told of it. The same moves without those of any number of such workers are
possible too, and lead to the same store and the same other workers.
-/

namespace RedemptionRelay

/-! ## Lists without some of the places -/

section Sift

variable {α : Type} (omitted : Nat → Bool)

/-- Leaves entries out by their places, the first of which is given. -/
def sift : Nat → List α → List α
  | _, [] => []
  | place, entry :: later =>
      if omitted place then sift (place + 1) later else entry :: sift (place + 1) later

def siftedPlace (place : Nat) : Nat :=
  ((List.range place).filter fun other => !omitted other).length

variable {omitted} {place : Nat} {entries : List α} {entry : α}

theorem sift_append (front back : List α) :
    sift omitted place (front ++ back) =
      sift omitted place front ++ sift omitted (place + front.length) back := by
  induction front generalizing place with
  | nil => rfl
  | cons first front induction =>
      have shifted : place + 1 + front.length = place + (front.length + 1) := by omega
      rw [List.cons_append, sift, sift, induction, List.length_cons, shifted]
      split <;> rfl

theorem length_sift : (sift omitted place entries).length =
    ((List.range' place entries.length).filter fun other => !omitted other).length := by
  induction entries generalizing place with
  | nil => rfl
  | cons entry entries induction =>
      rw [sift, List.length_cons, List.range'_succ, List.filter_cons]
      cases omitted place with
      | true => exact induction
      | false => exact congrArg (· + 1) induction

theorem mem_of_mem_sift (among : entry ∈ sift omitted place entries) : entry ∈ entries := by
  induction entries generalizing place with
  | nil => exact among
  | cons first entries induction =>
      rw [sift] at among
      split at among
      · exact List.mem_cons_of_mem _ (induction among)
      · rcases List.mem_cons.mp among with rfl | later
        · exact List.mem_cons_self
        · exact List.mem_cons_of_mem _ (induction later)

theorem sift_concat : sift omitted 0 (entries ++ [entry]) =
    sift omitted 0 entries ++ if omitted entries.length then [] else [entry] := by
  rw [sift_append, Nat.zero_add]
  rfl

theorem sift_split {front back : List α} : sift omitted 0 (front ++ entry :: back) =
    sift omitted 0 front ++
      if omitted front.length then sift omitted (front.length + 1) back
      else entry :: sift omitted (front.length + 1) back := by
  rw [sift_append, Nat.zero_add]
  rfl

theorem sift_set_of_omitted (there : entries[place]? = some entry) (other : α)
    (isOmitted : omitted place = true) :
    sift omitted 0 (entries.set place other) = sift omitted 0 entries := by
  rcases split_at_place there with ⟨front, back, rfl, whole, replaced⟩
  rw [replaced, whole, sift_split, sift_split, if_pos isOmitted, if_pos isOmitted]

theorem siftedPlace_length (front : List α) :
    siftedPlace omitted front.length = (sift omitted 0 front).length := by
  rw [siftedPlace, length_sift, List.range_eq_range']

theorem getElem?_sift (there : entries[place]? = some entry) (isKept : omitted place = false) :
    (sift omitted 0 entries)[siftedPlace omitted place]? = some entry := by
  rcases split_at_place there with ⟨front, back, rfl, whole, -⟩
  rw [siftedPlace_length, whole, sift_split, isKept]
  simp

theorem sift_set_of_kept (there : entries[place]? = some entry) (other : α)
    (isKept : omitted place = false) :
    sift omitted 0 (entries.set place other) =
      (sift omitted 0 entries).set (siftedPlace omitted place) other := by
  rcases split_at_place there with ⟨front, back, rfl, whole, replaced⟩
  rw [siftedPlace_length, replaced, whole, sift_split, sift_split, isKept]
  simp

theorem countP_sift (counts : α → Bool) (uncounted : ∀ index entry,
      omitted (place + index) = true → entries[index]? = some entry → counts entry = false) :
    (sift omitted place entries).countP counts = entries.countP counts := by
  induction entries generalizing place with
  | nil => rfl
  | cons first entries induction =>
      have later : (sift omitted (place + 1) entries).countP counts = entries.countP counts := by
        refine induction fun index entry isOmitted there => uncounted (index + 1) entry ?_ there
        rwa [Nat.add_right_comm, Nat.add_assoc] at isOmitted
      rw [sift, List.countP_cons]
      cases isOmitted : omitted place with
      | true => rw [if_pos rfl, later, uncounted 0 first isOmitted rfl]; rfl
      | false => rw [if_neg Bool.false_ne_true, List.countP_cons, later]

end Sift

/-! ## Fleets without some of the workers -/

def Job.hasCreated : Job → Bool
  | .intake (.finished (.ok (.created _))) => true
  | _ => false

theorem Job.hasCreated_of_isBarren {job : Job} (barren : job.isBarren = true) :
    job.hasCreated = false := by
  rcases job with _ | (_ | _ | _ | _ | (_ | (_ | _ | _)))
  case intake.finished.ok.created => cases barren
  all_goals rfl

namespace Fleet

variable {σ : Type}

/-- The moves that do not concern the workers left out; `staff` workers have been
launched before. -/
def without (omitted : Nat → Bool) : Nat → List Move → List Move
  | _, [] => []
  | staff, .pass nanoseconds :: later => .pass nanoseconds :: without omitted staff later
  | staff, .act index action :: later =>
      if omitted index then without omitted staff later
      else .act (siftedPlace omitted index) action :: without omitted staff later
  | staff, launch :: later =>
      if omitted staff then without omitted (staff + 1) later
      else launch :: without omitted (staff + 1) later

def creations (fleet : Fleet σ) : Nat :=
  fleet.members.countP (·.job.hasCreated)

def Barren (fleet : Fleet σ) (omitted : Nat → Bool) : Prop :=
  ∀ index (member : Member), omitted index = true → fleet.members[index]? = some member →
    member.job.isBarren = true

/-- The fleet as it is without these workers. -/
structure Sifted (omitted : Nat → Bool) (fleet reduced : Fleet σ) : Prop where
  store : reduced.store = fleet.store
  clock : reduced.clock = fleet.clock
  members : reduced.members = sift omitted 0 fleet.members
  versions : ∀ id, reduced.versions id = fleet.versions id

variable {omitted : Nat → Bool} {fleet reduced next last : Fleet σ} {index : Nat}
  {member after : Member} {store : σ} {deeds : List Deed} {job : Job} {action : Action}

theorem Sifted.joined_of_omitted (sifted : Sifted omitted fleet reduced)
    (isOmitted : omitted fleet.members.length = true) :
    Sifted omitted (fleet.joined job) reduced where
  store := sifted.store
  clock := sifted.clock
  members := by
    rw [joined, sift_concat, if_pos isOmitted, List.append_nil]
    exact sifted.members
  versions := sifted.versions

theorem Sifted.joined_of_kept (sifted : Sifted omitted fleet reduced)
    (isKept : omitted fleet.members.length = false) :
    Sifted omitted (fleet.joined job) (reduced.joined job) where
  store := sifted.store
  clock := sifted.clock
  members := by
    rw [joined, joined, sift_concat, isKept, sifted.members]
    rfl
  versions := sifted.versions

theorem Sifted.replaced_of_omitted (sifted : Sifted omitted fleet reduced)
    (there : fleet.members[index]? = some member) (isOmitted : omitted index = true)
    (same : store = fleet.store) (quiet : ∀ record, .stored record ∉ deeds) :
    Sifted omitted (fleet.replaced index after store deeds) reduced where
  store := sifted.store.trans same.symm
  clock := sifted.clock
  members := by
    rw [replaced, sift_set_of_omitted there after isOmitted]
    exact sifted.members
  versions id := by
    rw [versions_replaced_quiet quiet]
    exact sifted.versions id

theorem Sifted.replaced_of_kept (sifted : Sifted omitted fleet reduced)
    (there : fleet.members[index]? = some member) (isKept : omitted index = false) :
    Sifted omitted (fleet.replaced index after store deeds)
      (reduced.replaced (siftedPlace omitted index) after store deeds) where
  store := rfl
  clock := sifted.clock
  members := by
    rw [replaced, replaced, sift_set_of_kept there after isKept, sifted.members]
  versions id := by
    rw [versions_replaced, versions_replaced, sifted.versions]
    rfl

variable [Store σ]

theorem Sifted.act? (sifted : Sifted omitted fleet reduced) (member : Member) (action : Action) :
    reduced.act? member action = fleet.act? member action := by
  rcases fleet with ⟨store, clock, members, events, history⟩
  rcases reduced with ⟨store', clock', members', events', history'⟩
  cases sifted.store
  cases sifted.clock
  rfl

variable [LawfulStore σ] {origin : String → Option Redemption} {move : Move} {moves : List Move}

theorem Barren.of_steps (barren : next.Barren omitted) (coherent : fleet.Coherent origin)
    (steps : fleet.Steps move next) : fleet.Barren omitted := by
  intro index member isOmitted there
  cases steps with
  | passed => exact barren index member isOmitted there
  | batchLaunched | intakeLaunched =>
      refine barren index member isOmitted ?_
      exact (List.getElem?_append_left (List.getElem?_eq_some_iff.mp there).1).trans there
  | @acted acting actor after action store deeds actorThere acts =>
      by_cases isActor : acting = index
      · subst isActor
        cases there.symm.trans actorThere
        have afterBarren := barren _ _ isOmitted (getElem?_replaced_self there)
        exact (coherent.barren_of_acts there acts afterBarren).1
      · exact barren index member isOmitted ((List.getElem?_set_ne isActor).trans there)

theorem Barren.of_follow? (barren : last.Barren omitted) (coherent : fleet.Coherent origin)
    (followed : fleet.follow? Free moves = some last) : fleet.Barren omitted := by
  induction moves generalizing fleet with
  | nil => exact Option.some.inj followed ▸ barren
  | cons move later induction =>
      rw [follow?_cons] at followed
      rcases Option.bind_eq_some_iff.mp followed with ⟨next, step, followed⟩
      exact (induction (coherent.step step) followed).of_steps coherent (steps_of_step? step)

omit [LawfulStore σ] in
theorem Sifted.launched {informed : Fleet σ} (sifted : Sifted omitted fleet reduced)
    (siftedInformed : Sifted omitted fleet informed)
    (launches : reduced.step? move = some (informed.joined job))
    (leaves : ∀ later, without omitted fleet.members.length (move :: later) =
      if omitted fleet.members.length then without omitted (fleet.members.length + 1) later
      else move :: without omitted (fleet.members.length + 1) later) :
    ∃ reducedNext, Sifted omitted (fleet.joined job) reducedNext ∧ ∀ later,
      reduced.follow? Free (without omitted fleet.members.length (move :: later)) =
        reducedNext.follow? Free (without omitted (fleet.joined job).members.length later) := by
  have joins : (fleet.joined job).members.length = fleet.members.length + 1 := List.length_append
  cases isOmitted : omitted fleet.members.length with
  | true =>
      refine ⟨reduced, sifted.joined_of_omitted isOmitted, fun later => ?_⟩
      rw [leaves, if_pos isOmitted, joins]
  | false =>
      refine ⟨informed.joined job, siftedInformed.joined_of_kept isOmitted, fun later => ?_⟩
      rw [leaves, isOmitted, joins, if_neg Bool.false_ne_true, follow?_cons, launches]
      rfl

theorem Sifted.acted (sifted : Sifted omitted fleet reduced) (coherent : fleet.Coherent origin)
    (there : fleet.members[index]? = some member)
    (acted : fleet.act? member action = some (after, store, deeds))
    (barren : (fleet.replaced index after store deeds).Barren omitted) :
    ∃ reducedNext, Sifted omitted (fleet.replaced index after store deeds) reducedNext ∧ ∀ later,
      reduced.follow? Free (without omitted fleet.members.length (.act index action :: later)) =
        reducedNext.follow? Free (without omitted
          (fleet.replaced index after store deeds).members.length later) := by
  have same : (fleet.replaced index after store deeds).members.length = fleet.members.length :=
    List.length_set
  cases isOmitted : omitted index with
  | true =>
      have afterBarren := barren _ _ isOmitted (getElem?_replaced_self there)
      rcases coherent.barren_of_acts there (acts_of_act? acted) afterBarren with
        ⟨-, sameStore, quiet⟩
      refine ⟨reduced, sifted.replaced_of_omitted there isOmitted sameStore quiet, fun later => ?_⟩
      rw [without, if_pos isOmitted, same]
  | false =>
      have reducedThere := getElem?_sift there isOmitted
      rw [← sifted.members] at reducedThere
      have reducedStep : reduced.step? (.act (siftedPlace omitted index) action) =
          some (reduced.replaced (siftedPlace omitted index) after store deeds) := by
        simp only [step?, reducedThere, sifted.act?, acted]
        rfl
      refine ⟨_, sifted.replaced_of_kept there isOmitted, fun later => ?_⟩
      rw [without, isOmitted, same, if_neg Bool.false_ne_true, follow?_cons, reducedStep]
      rfl

theorem Sifted.step (sifted : Sifted omitted fleet reduced) (coherent : fleet.Coherent origin)
    (step : fleet.step? move = some next) (barren : next.Barren omitted) :
    ∃ reducedNext, Sifted omitted next reducedNext ∧ ∀ later,
      reduced.follow? Free (without omitted fleet.members.length (move :: later)) =
        reducedNext.follow? Free (without omitted next.members.length later) := by
  cases move with
  | pass nanoseconds =>
      cases steps_of_step? step with
      | passed inTime =>
          have reducedInTime : reduced.members.all
              (·.mayWait (reduced.clock + nanoseconds)) = true := by
            rw [List.all_eq_true, sifted.members, sifted.clock]
            exact fun member among => inTime member (mem_of_mem_sift among)
          have passes : reduced.step? (.pass nanoseconds) =
              some { reduced with clock := reduced.clock + nanoseconds } := if_pos reducedInTime
          refine ⟨{ reduced with clock := reduced.clock + nanoseconds }, ?_, fun later => ?_⟩
          · exact ⟨sifted.store, congrArg (· + nanoseconds) sifted.clock, sifted.members,
              sifted.versions⟩
          · rw [without, follow?_cons, passes]
            rfl
  | launchBatch phase policy chain =>
      cases step
      exact sifted.launched sifted rfl fun _ => rfl
  | launchIntake listener raw =>
      cases step
      have told : Sifted omitted (fleet.told listener raw) reduced :=
        ⟨sifted.store, sifted.clock, sifted.members, sifted.versions⟩
      have bothTold : Sifted omitted (fleet.told listener raw) (reduced.told listener raw) :=
        ⟨sifted.store, sifted.clock, sifted.members, sifted.versions⟩
      exact told.launched bothTold rfl fun _ => rfl
  | act index action =>
      cases there : fleet.members[index]? with
      | none => simp only [step?, there, reduceCtorEq] at step
      | some member =>
          simp only [step?, there] at step
          rcases Option.map_eq_some_iff.mp step with ⟨⟨after, store, deeds⟩, acted, rfl⟩
          exact sifted.acted coherent there acted barren

theorem Sifted.follow? (sifted : Sifted omitted fleet reduced) (coherent : fleet.Coherent origin)
    (followed : fleet.follow? Free moves = some last) (barren : last.Barren omitted) :
    ∃ remaining, reduced.follow? Free (without omitted fleet.members.length moves) =
      some remaining ∧ Sifted omitted last remaining := by
  induction moves generalizing fleet reduced with
  | nil => exact ⟨reduced, rfl, Option.some.inj followed ▸ sifted⟩
  | cons move later induction =>
      rw [follow?_cons] at followed
      rcases Option.bind_eq_some_iff.mp followed with ⟨next, step, followed⟩
      have coherentNext := coherent.step step
      -- What is known of the end of the run is carried back to this move.
      have barrenNext := barren.of_follow? coherentNext followed
      rcases sifted.step coherent step barrenNext with ⟨reducedNext, siftedNext, goesOn⟩
      rw [goesOn]
      exact induction siftedNext coherentNext followed

/-- The moves come to the same without those of these workers. -/
def SameWithout (fleet : Fleet σ) (store : σ) (clock : Nat) (moves : List Move)
    (omitted : Nat → Bool) : Prop :=
  ∃ remaining, (initial store clock).follow? Free (without omitted 0 moves) = some remaining ∧
    remaining.store = fleet.store ∧ remaining.members = sift omitted 0 fleet.members ∧
    (∀ id, remaining.versions id = fleet.versions id) ∧ remaining.creations = fleet.creations

theorem Barren.sameWithout {clock : Nat} (barren : fleet.Barren omitted)
    (sound : LawfulStore.Sound store)
    (followed : (initial store clock).follow? Free moves = some fleet) :
    fleet.SameWithout store clock moves omitted := by
  have begins : Sifted omitted (initial store clock) (initial store clock) :=
    ⟨rfl, rfl, rfl, fun _ => rfl⟩
  rcases begins.follow? (coherent_initial sound clock) followed barren with
    ⟨remaining, reached, sifted⟩
  refine ⟨remaining, reached, sifted.store, sifted.members, sifted.versions, ?_⟩
  rw [creations, sifted.members]
  refine countP_sift _ fun index member isOmitted there => ?_
  rw [Nat.zero_add] at isOmitted
  exact Job.hasCreated_of_isBarren (barren index member isOmitted there)

end Fleet

end RedemptionRelay
