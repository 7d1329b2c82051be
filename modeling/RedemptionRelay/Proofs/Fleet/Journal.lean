import Mathlib.Data.List.Perm.Subperm
import RedemptionRelay.Proofs.Fleet.Integrity
import RedemptionRelay.Proofs.Fleet.Lines

/-! # The journal accounts for the store

The lines about a redemption are those that its stored states call for, no more
and no less: each is either written or about to be written by the worker that
has stored the state. As long as nobody stops, nothing keeps a worker from that.
-/

namespace RedemptionRelay

namespace Fleet

variable {σ : Type} {origin : String → Option Redemption} {fleet : Fleet σ} {index : Nat}
  {member after : Member} {store : σ} {deeds : List Deed} {id : String}

section Moves

variable [Store σ]

/-! ## Nobody stops -/

/-- Any move but the one by which a worker stops. -/
def Unhalted (_ : Fleet σ) : Move → Prop
  | .act _ .halt => False
  | _ => True

instance (fleet : Fleet σ) : (move : Move) → Decidable (fleet.Unhalted move)
  | .act _ .halt => .isFalse not_false
  | .act _ .proceed | .act _ (.fail _) | .act _ .call | .act _ (.hear _) => .isTrue trivial
  | .pass _ | .launchBatch _ _ _ | .launchIntake _ _ => .isTrue trivial

theorem Run.running {start : Fleet σ} (fresh : start.members = [])
    (run : Run Unhalted start fleet) :
    ∀ (index : Nat) (member : Member), fleet.members[index]? = some member →
      member.isHalted = false := by
  induction run with
  | rest => simp [fresh]
  | move move _ admissible step running =>
      intro other member' found
      cases steps_of_step? step with
      | passed => exact running other member' found
      | batchLaunched | intakeLaunched =>
          rcases getElem?_joined found with rfl | before
          · rfl
          · exact running other member' before
      | @acted index member after action store deeds there acts =>
          rcases getElem?_replaced there found with ⟨rfl, rfl⟩ | ⟨-, before⟩
          · cases acts with
            | proceeded still =>
                unfold Member.goOn
                split <;> exact still
            | failed still | called still | heard still => exact still
            | unheard halted =>
                exact absurd (halted.symm.trans (running _ _ there)) (by simp)
            | halted => exact admissible.elim
          · exact running other member' before

theorem asks_of_line? {job : Job} {milestone : Milestone} (line : job.line? = some milestone) :
    ∃ resume, job.next = .ask (.announce milestone) resume := by
  cases job with
  | batch work =>
      rcases work with ⟨phase, policy, chain, summary, stage⟩
      cases stage <;> cases line
      exact ⟨_, rfl⟩
  | intake work =>
      cases work <;> cases line
      exact ⟨_, rfl⟩

/-- Nothing stands between a worker and the line that it owes. -/
theorem step?_of_line? {milestone : Milestone} (there : fleet.members[index]? = some member)
    (running : member.isHalted = false) (line : member.job.line? = some milestone) :
    ∃ next, fleet.step? (.act index .proceed) = some next ∧
      next.history = fleet.history ++ [⟨index, .announced milestone⟩] := by
  rcases asks_of_line? line with ⟨resume, asks⟩
  have acts : fleet.act? member .proceed =
      some (member.goOn fleet.clock (resume ()), fleet.store, [.announced milestone]) := by
    simp only [act?, asks, running, Bool.false_or]
    rfl
  refine ⟨fleet.replaced index (member.goOn fleet.clock (resume ())) fleet.store
    [.announced milestone], ?_, rfl⟩
  simp only [step?, there, acts, Option.map_some]

end Moves

/-! ## The account is kept -/

theorem linesAbout_append (left right : List Milestone) :
    linesAbout id (left ++ right) = linesAbout id left ++ linesAbout id right :=
  List.filter_append ..

theorem linesIn_replaced :
    linesIn (fleet.replaced index after store deeds).history id =
      linesIn fleet.history id ++ linesAbout id (deeds.filterMap Deed.line?) := by
  simp only [linesIn, replaced, List.filterMap_append, linesAbout_append, List.filterMap_map]
  rfl

theorem owed_replaced (after : Member) (store : σ) (deeds : List Deed) (id : String)
    (there : fleet.members[index]? = some member) :
    ∃ front back, fleet.owed id = front ++ linesAbout id member.job.line?.toList ++ back ∧
      (fleet.replaced index after store deeds).owed id =
        front ++ linesAbout id after.job.line?.toList ++ back := by
  rcases split_at_place there with ⟨front, back, -, whole, replaced⟩
  refine ⟨linesAbout id (front.filterMap (·.job.line?)),
    linesAbout id (back.filterMap (·.job.line?)), ?_, ?_⟩
  · rw [owed, whole, List.append_cons, List.filterMap_append, List.filterMap_append,
      linesAbout_append, linesAbout_append]
    cases line : member.job.line? <;> simp [line]
  · show linesAbout id ((fleet.members.set index after).filterMap (·.job.line?)) = _
    rw [replaced, List.append_cons, List.filterMap_append, List.filterMap_append,
      linesAbout_append, linesAbout_append]
    cases line : after.job.line? <;> simp [line]

/-- What a move writes and what it leaves owed is what was owed before it, and
the line of the state that it stores. -/
theorem Notes.balance (notes : fleet.Notes origin member after deeds) (index : Nat) (store : σ)
    (id : String) :
    ∃ due, Redemption.account (origin id) ((fleet.replaced index after store deeds).versions id) =
        Redemption.account (origin id) (fleet.versions id) ++ due ∧
      linesAbout id (deeds.filterMap Deed.line?) ++ linesAbout id after.job.line?.toList =
        linesAbout id member.job.line?.toList ++ due ∧
      ((∀ record, .stored record ∈ deeds → record.id ≠ id) → due = []) := by
  cases notes with
  | nothing quiet silent same =>
      exact ⟨[], by rw [versions_replaced_quiet quiet, List.append_nil],
        by rw [silent, same, List.append_nil]; rfl, fun _ => rfl⟩
  | wrote owed free =>
      refine ⟨[], ?_, ?_, fun _ => rfl⟩
      · rw [versions_replaced_quiet (by simp), List.append_nil]
      · simp [owed, free, Deed.line?, linesAbout]
  | @stored record free owes =>
      rw [versions_replaced_stored, free, owes]
      have ofRecord : ∀ line ∈ (Redemption.nextLine? (fleet.trail origin record.id).getLast?
          record).toList, line.redemptionId = record.id :=
        fun line due => Redemption.id_of_nextLine? (Option.mem_toList.mp due)
      by_cases same : record.id = id
      · subst same
        refine ⟨(Redemption.nextLine? (fleet.trail origin record.id).getLast? record).toList,
          ?_, ?_, fun other => absurd rfl (other record (List.mem_singleton_self _))⟩
        · rw [if_pos rfl]
          exact Redemption.account_concat ..
        · refine (List.filter_eq_self.mpr ?_)
          exact fun line due => beq_iff_eq.mpr (ofRecord line due)
      · refine ⟨[], by rw [if_neg same, List.append_nil], ?_, fun _ => rfl⟩
        refine List.filter_eq_nil_iff.mpr ?_
        intro line due isAbout
        exact same ((ofRecord line due).symm.trans (beq_iff_eq.mp isAbout))

end Fleet

/-- Whenever a state of the record was written, no line about it was outstanding:
the journal was no longer than the account, and it was no shorter either. -/
def KeepsUp (history : List HistoryEntry) (first : Option Redemption) (id : String) : Prop :=
  ∀ earlier worker record later, history = earlier ++ ⟨worker, .stored record⟩ :: later →
    record.id = id →
      (linesIn earlier id).length = (Redemption.account first (versionsIn earlier id)).length

theorem KeepsUp.earlier {history new : List HistoryEntry} {first : Option Redemption}
    {id : String} (keepsUp : KeepsUp (history ++ new) first id) : KeepsUp history first id := by
  intro earlier worker record later split
  refine keepsUp earlier worker record (later ++ new) ?_
  rw [split, List.append_assoc, List.cons_append]

theorem KeepsUp.concat {history : List HistoryEntry} {entry : HistoryEntry}
    {first : Option Redemption} {id : String} (keepsUp : KeepsUp history first id)
    (clear : ∀ record, entry.deed = .stored record → record.id = id →
      (linesIn history id).length = (Redemption.account first (versionsIn history id)).length) :
    KeepsUp (history ++ [entry]) first id := by
  intro earlier worker record later split sameId
  have begins : earlier ++ [⟨worker, .stored record⟩] <+: history ++ [entry] :=
    ⟨later, by rw [split, List.append_assoc, List.singleton_append]⟩
  rcases List.prefix_concat_iff.mp begins with whole | ⟨rest, inside⟩
  · rcases List.append_inj' whole rfl with ⟨rfl, same⟩
    exact clear record (congrArg HistoryEntry.deed (List.singleton_inj.mp same).symm) sameId
  · exact keepsUp earlier worker record rest (by rw [← inside, List.append_assoc]; rfl) sameId

/-- At most one line is owed at a time, and it is owed until the next one is due. -/
theorem ordered_of_balance {α : Type} {lines owing front mine back written next due : List α}
    (ordered : lines ++ (front ++ mine ++ back) = owing)
    (atMostOne : (front ++ mine ++ back).length ≤ 1) (balance : written ++ next = mine ++ due)
    (nextAtMostOne : next.length ≤ 1) (clear : due = [] ∨ front ++ mine ++ back = []) :
    lines ++ written ++ (front ++ next ++ back) = owing ++ due ∧
      (front ++ next ++ back).length ≤ 1 := by
  rcases clear with rfl | nothing
  · cases written with
    | nil =>
        obtain rfl : next = mine := by simpa using balance
        exact ⟨by simpa using ordered, atMostOne⟩
    | cons line written =>
        -- The line that is written was the only one that was owed.
        obtain rfl : mine = line :: (written ++ next) := by simpa using balance.symm
        simp only [List.length_append, List.length_cons] at atMostOne
        obtain rfl : front = [] := List.eq_nil_of_length_eq_zero (by omega)
        obtain rfl : back = [] := List.eq_nil_of_length_eq_zero (by omega)
        exact ⟨by simpa using ordered, by simpa using nextAtMostOne⟩
  · obtain ⟨rfl, rfl, rfl⟩ : front = [] ∧ mine = [] ∧ back = [] := by simpa using nothing
    refine ⟨?_, by simpa using nextAtMostOne⟩
    rw [← ordered, List.append_assoc, List.nil_append, List.append_nil, balance]
    simp

namespace Fleet

variable {σ : Type} {origin : String → Option Redemption} {fleet : Fleet σ} {index : Nat}
  {member after : Member} {store : σ} {deeds : List Deed} {id : String}

/-- What has been written and what is owed are the lines that the stored states
call for, and come in the same order if the journal keeps up. -/
structure Accounted (origin : String → Option Redemption) (fleet : Fleet σ) (id : String) :
    Prop where
  exact : (linesIn fleet.history id ++ fleet.owed id).Perm
    (Redemption.account (origin id) (fleet.versions id))
  ordered : KeepsUp fleet.history (origin id) id →
    linesIn fleet.history id ++ fleet.owed id =
        Redemption.account (origin id) (fleet.versions id) ∧
      (fleet.owed id).length ≤ 1

theorem Accounted.replaced (accounted : fleet.Accounted origin id)
    (there : fleet.members[index]? = some member)
    (notes : fleet.Notes origin member after deeds) :
    (fleet.replaced index after store deeds).Accounted origin id := by
  rcases owed_replaced after store deeds id there with ⟨front, back, owed, owedAfter⟩
  rcases notes.balance index store id with ⟨due, account, balance, noWrite⟩
  have exact := accounted.exact
  rw [owed] at exact
  constructor
  · rw [linesIn_replaced, owedAfter, account, List.perm_iff_count]
    intro line
    have counted := (List.perm_iff_count.mp exact) line
    have balanced := congrArg (List.count line) balance
    simp only [List.count_append] at counted balanced ⊢
    omega
  · intro keepsUp
    have keepsUp' : KeepsUp (fleet.history ++ deeds.map (⟨index, ·⟩)) (origin id) id := keepsUp
    rcases accounted.ordered keepsUp'.earlier with ⟨ordered, atMostOne⟩
    rw [linesIn_replaced, owedAfter, account]
    refine ordered_of_balance (owed ▸ ordered) (owed ▸ atMostOne) balance ?_ ?_
    · refine (List.length_filter_le _ _).trans ?_
      cases after.job.line? <;> simp
    · by_cases writes : ∃ record, .stored record ∈ deeds ∧ record.id = id
      · right
        rcases writes with ⟨record, stored, sameId⟩
        have alone : deeds = [.stored record] := by
          cases notes with
          | nothing quiet => exact absurd stored (quiet record)
          | stored => rw [List.mem_singleton.mp stored]
          | wrote => simp at stored
        have upToDate := keepsUp' fleet.history index record [] (by rw [alone]; rfl) sameId
        have whole := congrArg List.length ordered
        rw [List.length_append, upToDate] at whole
        rw [← owed]
        exact List.eq_nil_of_length_eq_zero (Nat.add_eq_left.mp whole)
      · exact .inl (noWrite fun record stored sameId => writes ⟨record, stored, sameId⟩)

theorem Accounted.joined (accounted : fleet.Accounted origin id) {job : Job}
    (free : job.line? = none) : (fleet.joined job).Accounted origin id := by
  have same : (fleet.joined job).owed id = fleet.owed id := by
    simp [owed, Fleet.joined, free]
  constructor
  · rw [same]
    exact accounted.exact
  · rw [same]
    exact accounted.ordered

variable [Store σ] [LawfulStore σ]

theorem Accounted.step {next : Fleet σ} {move : Move} (accounted : fleet.Accounted origin id)
    (coherent : fleet.Coherent origin)
    (before : ∀ id record, origin id = some record → record.Consistent)
    (step : fleet.step? move = some next) : next.Accounted origin id := by
  cases steps_of_step? step with
  | passed => exact { accounted with }
  | batchLaunched => exact accounted.joined rfl
  | @intakeLaunched listener raw =>
      have told : (fleet.told listener raw).Accounted origin id := { accounted with }
      refine told.joined ?_
      unfold Job.line? Intake.start
      cases listener.request raw <;> rfl
  | acted there acts => exact accounted.replaced there (coherent.notes_of_acts before there acts)

omit [Store σ] [LawfulStore σ] in
theorem accounted_initial (clock : Nat) (id : String) :
    (initial store clock).Accounted origin id :=
  ⟨.refl _, fun _ => ⟨rfl, Nat.zero_le _⟩⟩

theorem Run.accounted {allowed : Fleet σ → Move → Prop} {clock : Nat}
    (sound : LawfulStore.Sound store)
    (before : ∀ id record, LawfulStore.record? store id = some record → record.Consistent)
    (run : Run allowed (initial store clock) fleet) (id : String) :
    fleet.Accounted (LawfulStore.record? store) id := by
  induction run with
  | rest => exact accounted_initial clock id
  | move move run _ step accounted => exact accounted.step (run.coherent sound) before step

/-! ## Undivided moves -/

/-- A worker that owes a line writes it before anybody else moves. -/
def Undivided (fleet : Fleet σ) : Move → Prop
  | .act index _ => ∀ (other : Nat) (member : Member), fleet.members[other]? = some member →
      member.job.line?.isSome → other = index
  | _ => True

omit [Store σ] [LawfulStore σ] in
theorem owed_eq_nil (clear : ∀ (index : Nat) (member : Member),
    fleet.members[index]? = some member → member.job.line? = none) : fleet.owed id = [] := by
  have nothing : fleet.members.filterMap (·.job.line?) = [] := by
    rw [List.filterMap_eq_nil_iff]
    intro member inFleet
    rcases List.mem_iff_getElem?.mp inFleet with ⟨index, there⟩
    exact clear index member there
  rw [owed, nothing]
  rfl

/-- So the journal keeps up where no worker is interrupted between a write and
the line about it. -/
theorem Run.keepsUp {clock : Nat} (sound : LawfulStore.Sound store)
    (before : ∀ id record, LawfulStore.record? store id = some record → record.Consistent)
    (run : Run Undivided (initial store clock) fleet) (id : String) :
    KeepsUp fleet.history (LawfulStore.record? store id) id := by
  induction run with
  | rest =>
      intro earlier worker record later split
      cases earlier <;> cases split
  | @move fleet next move run undivided step keepsUp =>
      cases steps_of_step? step with
      | passed | batchLaunched | intakeLaunched => exact keepsUp
      | @acted index member after action store deeds there acts =>
          have accounted := run.accounted sound before id
          have notes := (run.coherent sound).notes_of_acts before there acts
          show KeepsUp (fleet.history ++ deeds.map _) _ id
          rcases deeds with _ | ⟨deed, _ | ⟨other, others⟩⟩
          · rw [List.map_nil, List.append_nil]
            exact keepsUp
          · refine keepsUp.concat ?_
            intro record stored _
            cases notes with
            | nothing quiet => exact absurd (List.mem_singleton.mpr stored.symm) (quiet record)
            | wrote => cases stored
            | stored free =>
                -- The worker that stores owes nothing, and nobody else does.
                have nothing : fleet.owed id = [] := owed_eq_nil fun other member' found => by
                  cases line : member'.job.line? with
                  | none => rfl
                  | some milestone =>
                      obtain rfl := undivided other member' found (by rw [line]; rfl)
                      rw [Option.some.inj (found.symm.trans there), free] at line
                      cases line
                have exact := accounted.exact.length_eq
                rw [nothing, List.append_nil] at exact
                exact exact
          · have := length_of_acts acts
            simp at this

/-! ## The journal -/

/-- The journal tells of a redemption exactly what has been stored of it. -/
structure Journaled (origin : String → Option Redemption) (fleet : Fleet σ) (id : String) :
    Prop where
  /-- The lines written and the lines owed are the lines that the stored states call for. -/
  exact : (linesIn fleet.history id ++ fleet.owed id).Perm
    (Redemption.account (origin id) (fleet.versions id))
  once : (linesIn fleet.history id ++ fleet.owed id).Nodup
  /-- A line that is owed is what its worker writes next. -/
  pays : ∀ index member milestone, fleet.members[index]? = some member →
    member.job.line? = some milestone →
      ∃ next, fleet.step? (.act index .proceed) = some next ∧
        next.history = fleet.history ++ [⟨index, .announced milestone⟩]
  /-- At no time was there a line about what had not been stored. -/
  notEarly : ∀ earlier, earlier <+: fleet.history →
    (linesIn earlier id).Subperm (Redemption.account (origin id) (versionsIn earlier id))
  /-- The lines that are called for are the first ones of a course. -/
  course : ∃ course ∈ Redemption.courses (origin id),
    (Redemption.account (origin id) (fleet.versions id)).map (·.name) <+: course
  /-- They come in that order, unless the line of one worker is overtaken by another one's. -/
  ordered : KeepsUp fleet.history (origin id) id →
    linesIn fleet.history id ++ fleet.owed id = Redemption.account (origin id) (fleet.versions id)
  /-- Then the lines written so far are the first ones of a course as well. -/
  begins : KeepsUp fleet.history (origin id) id → ∃ course ∈ Redemption.courses (origin id),
    (linesIn fleet.history id).map (·.name) <+: course

theorem milestones_accounted {clock : Nat} (sound : LawfulStore.Sound store)
    (before : ∀ id record, LawfulStore.record? store id = some record → record.Consistent)
    (run : Run Unhalted (initial store clock) fleet) (id : String) :
    fleet.Journaled (LawfulStore.record? store) id := by
  have coherent := run.coherent sound
  have accounted := run.accounted sound before id
  have begins : LawfulStore.record? store id = none →
      ∀ first ∈ (fleet.versions id).head?, first.status = .pending := by
    intro absent first isFirst
    rcases coherent.begun id absent first isFirst with ⟨chain, event, now, logged, -, rfl⟩
    rfl
  have onCourse := Redemption.account_begins_course (coherent.linked id) begins
  refine ⟨accounted.exact, ?_, ?_, ?_, onCourse, fun keepsUp => (accounted.ordered keepsUp).1, ?_⟩
  · exact accounted.exact.nodup_iff.mpr (Redemption.nodup_account (coherent.linked id) begins)
  · intro index member milestone there line
    exact step?_of_line? there (run.running rfl index member there) line
  · intro earlier isEarlier
    rcases run.exists_earlier rfl earlier isEarlier with ⟨middle, runThere, rfl⟩
    have exact := (runThere.accounted sound before id).exact
    exact (List.sublist_append_left _ _).subperm.trans exact.subperm
  · intro keepsUp
    rcases onCourse with ⟨course, among, isPrefix⟩
    rw [← (accounted.ordered keepsUp).1, List.map_append] at isPrefix
    exact ⟨course, among, (List.prefix_append _ _).trans isPrefix⟩

/-- Two batches fetch, one of which loses its claim; another batch settles, and is
about to write the line of that. -/
theorem milestones_accounted_before_last_line :
    ∃ fleet : Fleet MemoryStore, fleet.Journaled (fun _ => none) "0xa1" ∧
      (linesIn fleet.history "0xa1").map (·.name) =
        ["redemption_observed", "attestation_fetched"] ∧
      (fleet.owed "0xa1").map (fun line => (line.name, line.settlement)) =
        [("redemption_completed", some "0xb2")] := by
  let moves : List Move :=
    Sample.arrival ++ [.act 0 .proceed] ++
      [.launchBatch .attestation {} none, .launchBatch .attestation {} none] ++
      (List.replicate 5 [.act 1 .proceed, .act 2 .proceed]).flatten ++ [.act 1 .call] ++
      Sample.conclusion 1 Sample.attests ++ [.act 1 .proceed] ++
      [.launchBatch .settlement {} none] ++ Sample.claim 3 ++ [.act 3 .call] ++
      Sample.conclusion 3 Sample.settles
  have happened : ((initial ({} : MemoryStore) 0).follow? Unhalted moves).map (fun fleet =>
      ((linesIn fleet.history "0xa1").map (·.name),
        (fleet.owed "0xa1").map fun line => (line.name, line.settlement))) =
        some (["redemption_observed", "attestation_fetched"],
          [("redemption_completed", some "0xb2")]) := by
    decide +kernel
  rcases Option.map_eq_some_iff.mp happened with ⟨fleet, followed, lines⟩
  rcases Prod.mk.inj lines with ⟨written, owed⟩
  have run : Run Unhalted (initial ({} : MemoryStore) 0) fleet := .of_follow? .rest followed
  have before : ∀ id record, LawfulStore.record? ({} : MemoryStore) id = some record →
      record.Consistent := by
    intro id record found
    change none = some record at found
    cases found
  exact ⟨fleet, milestones_accounted trivial before run "0xa1", written, owed⟩

/-- The worker that has fetched is still about to write its line when another one
has settled and has written. And a fleet that begins where another one has
stopped writes no line about a state that it finds. -/
theorem milestones_off_course :
    (∃ fleet : Fleet MemoryStore, Run Unhalted (initial {} 0) fleet ∧
      (linesIn fleet.history "0xa1").map (·.name) =
        ["redemption_observed", "redemption_completed"]) ∧
      (∃ earlier later : Fleet MemoryStore, Run Unhalted (initial {} 0) earlier ∧
        Run Unhalted (initial earlier.store earlier.clock) later ∧
        (linesIn later.history "0xa1").map (·.name) = ["attestation_fetched"]) ∧
      ∀ names ∈ [["redemption_observed", "redemption_completed"], ["attestation_fetched"]],
        ∀ course ∈ Milestone.courses, ¬ names <+: course := by
  let observes : List Move := Sample.arrival ++ [.act 0 .proceed]
  let fetches (index : Nat) : List Move :=
    .launchBatch .attestation {} none :: Sample.claim index ++ .act index .call ::
      Sample.conclusion index Sample.attests
  let settles (index : Nat) : List Move :=
    .launchBatch .settlement {} none :: Sample.claim index ++ .act index .call ::
      Sample.conclusion index Sample.settles
  have overtaken : ((initial ({} : MemoryStore) 0).follow? Unhalted
      (observes ++ fetches 1 ++ settles 2 ++ [.act 2 .proceed])).map
        (fun fleet => (linesIn fleet.history "0xa1").map (·.name)) =
      some ["redemption_observed", "redemption_completed"] := by
    decide +kernel
  have restarted : (((initial ({} : MemoryStore) 0).follow? Unhalted observes).bind fun earlier =>
      ((initial earlier.store earlier.clock).follow? Unhalted
        (fetches 0 ++ [.act 0 .proceed])).map
          fun later => (linesIn later.history "0xa1").map (·.name)) =
      some ["attestation_fetched"] := by
    decide +kernel
  refine ⟨?_, ?_, by decide⟩
  · rcases Option.map_eq_some_iff.mp overtaken with ⟨fleet, followed, lines⟩
    exact ⟨fleet, .of_follow? .rest followed, lines⟩
  · rcases Option.bind_eq_some_iff.mp restarted with ⟨earlier, followed, goesOn⟩
    rcases Option.map_eq_some_iff.mp goesOn with ⟨later, followedOn, lines⟩
    exact ⟨earlier, later, .of_follow? .rest followed, .of_follow? .rest followedOn, lines⟩

end Fleet

end RedemptionRelay
