import RedemptionRelay.Proofs.Fleet.Provenance
import RedemptionRelay.Proofs.Redemption.Succession
import RedemptionRelay.Proofs.Store.Lawful

/-! # Coherence of a fleet

The history of a fleet accounts for the store: under every identifier it holds
the last state written, each state follows from the one before it by one change,
and whatever a worker carries goes back to one of them. All of it holds from any
store in order, for workers who start with nothing.
-/

namespace RedemptionRelay

theorem HistoryEntry.stored_of_version? {id : String} {entry : HistoryEntry} {record : Redemption}
    (isVersion : entry.version? id = some record) :
    entry.deed = .stored record ∧ record.id = id := by
  rcases entry with ⟨worker, deed⟩
  cases deed with
  | stored written =>
      simp only [version?] at isVersion
      split at isVersion
      · next sameId =>
          cases isVersion
          exact ⟨rfl, sameId⟩
      · cases isVersion
  | refused | called | replied | announced => cases isVersion

namespace Fleet

variable {σ : Type}

/-! ## What has been written -/

/-- The states of one record: the one that the fleet started with, if any, and
those written since. -/
def trail (origin : String → Option Redemption) (fleet : Fleet σ) (id : String) :
    List Redemption :=
  (origin id).toList ++ fleet.versions id

def Wrote (fleet : Fleet σ) (index : Nat) (record : Redemption) : Prop :=
  ⟨index, .stored record⟩ ∈ fleet.history

/-- What a worker may know at this point. -/
def outlook (origin : String → Option Redemption) (fleet : Fleet σ) (index : Nat)
    (member : Member) : Outlook where
  known record := record ∈ fleet.trail origin record.id
  own := fleet.Wrote index
  accepted := fleet.Accepted
  admitted := member.admittedAt / Duration.nanosecondsPerSecond

variable {origin : String → Option Redemption} {fleet : Fleet σ} {index : Nat}
  {member after : Member} {store : σ} {deeds : List Deed} {record : Redemption} {id : String}

theorem versions_replaced : (fleet.replaced index after store deeds).versions id =
    fleet.versions id ++
      deeds.filterMap fun deed => HistoryEntry.version? id ⟨index, deed⟩ := by
  simp only [versions, replaced, List.filterMap_append, List.filterMap_map]
  rfl

theorem versions_replaced_quiet (quiet : ∀ record, .stored record ∉ deeds) :
    (fleet.replaced index after store deeds).versions id = fleet.versions id := by
  have nothing : (deeds.filterMap fun deed => HistoryEntry.version? id ⟨index, deed⟩) = [] := by
    rw [List.filterMap_eq_nil_iff]
    intro deed done
    cases deed with
    | stored record => exact absurd done (quiet record)
    | _ => rfl
  rw [versions_replaced, nothing, List.append_nil]

theorem versions_replaced_stored :
    (fleet.replaced index after store [.stored record]).versions id =
      if record.id = id then fleet.versions id ++ [record] else fleet.versions id := by
  rw [versions_replaced]
  by_cases same : record.id = id <;> simp [HistoryEntry.version?, same]

theorem trail_replaced_quiet (quiet : ∀ record, .stored record ∉ deeds) :
    (fleet.replaced index after store deeds).trail origin id = fleet.trail origin id := by
  rw [trail, versions_replaced_quiet quiet, trail]

theorem trail_replaced_stored :
    (fleet.replaced index after store [.stored record]).trail origin id =
      if record.id = id then fleet.trail origin id ++ [record] else fleet.trail origin id := by
  rw [trail, versions_replaced_stored, trail]
  split
  · rw [List.append_assoc]
  · rfl

theorem mem_trail_replaced (known : record ∈ fleet.trail origin id) :
    record ∈ (fleet.replaced index after store deeds).trail origin id := by
  rcases List.mem_append.mp known with first | later
  · exact List.mem_append_left _ first
  · rw [trail, versions_replaced]
    exact List.mem_append_right _ (List.mem_append_left _ later)

theorem Wrote.replaced {other : Nat} (wrote : fleet.Wrote other record) :
    (fleet.replaced index after store deeds).Wrote other record :=
  List.mem_append_left _ wrote

theorem wrote_replaced_iff {other : Nat} :
    (fleet.replaced index after store deeds).Wrote other record ↔
      fleet.Wrote other record ∨ (other = index ∧ .stored record ∈ deeds) := by
  simp only [Wrote, Fleet.replaced, List.mem_append, List.mem_map, HistoryEntry.mk.injEq]
  constructor
  · rintro (before | ⟨deed, done, rfl, rfl⟩)
    · exact .inl before
    · exact .inr ⟨rfl, done⟩
  · rintro (before | ⟨rfl, done⟩)
    · exact .inl before
    · exact .inr ⟨_, done, rfl, rfl⟩

theorem wrote_stored : (fleet.replaced index after store [.stored record]).Wrote index record :=
  wrote_replaced_iff.mpr (.inr ⟨rfl, List.mem_singleton_self _⟩)

theorem mem_versions_of_wrote (wrote : fleet.Wrote index record) :
    record ∈ fleet.versions record.id :=
  List.mem_filterMap.mpr ⟨_, wrote, by simp [HistoryEntry.version?]⟩

theorem wrote_of_mem_versions (among : record ∈ fleet.versions id) :
    ∃ index, fleet.Wrote index record := by
  rcases List.mem_filterMap.mp among with ⟨⟨index, deed⟩, written, isVersion⟩
  rcases HistoryEntry.stored_of_version? isVersion with ⟨rfl, -⟩
  exact ⟨index, written⟩

theorem mem_trail_of_wrote (wrote : fleet.Wrote index record) :
    record ∈ fleet.trail origin record.id :=
  List.mem_append_right _ (mem_versions_of_wrote wrote)

/-! ## The invariant -/

variable [Store σ] [LawfulStore σ]

structure Coherent (origin : String → Option Redemption) (fleet : Fleet σ) : Prop where
  sound : LawfulStore.Sound fleet.store
  /-- The store holds the last state. -/
  current : ∀ id, LawfulStore.record? fleet.store id = (fleet.trail origin id).getLast?
  linked : ∀ id, (fleet.trail origin id).IsChain Redemption.Precedes
  /-- A record that was not there before is one made from an accepted event. -/
  begun : ∀ id, origin id = none →
    ∀ first ∈ (fleet.versions id).head?, first.Begun fleet.Accepted
  traced : ∀ index (member : Member), fleet.members[index]? = some member →
    member.job.Traced (fleet.outlook origin index member)

namespace Coherent

variable (coherent : fleet.Coherent origin)
include coherent

theorem known_of_current (current : LawfulStore.record? fleet.store id = some record) :
    record ∈ fleet.trail origin id :=
  List.mem_of_getLast? ((coherent.current id).symm.trans current)

theorem current_of_known (known : record ∈ fleet.trail origin id) :
    ∃ stored, LawfulStore.record? fleet.store id = some stored ∧
      (record = stored ∨ record.Before stored) := by
  have nonempty := List.ne_nil_of_mem known
  rcases Option.isSome_iff_exists.mp (List.getLast?_isSome.mpr nonempty) with ⟨stored, isLast⟩
  exact ⟨stored, (coherent.current id).trans isLast,
    Redemption.eq_or_before_last (Redemption.pairwise_before (coherent.linked id)) known isLast⟩

theorem current_of_ended (known : record ∈ fleet.trail origin id)
    (ended : record.status.isTerminal = true) :
    LawfulStore.record? fleet.store id = some record := by
  rcases coherent.current_of_known known with ⟨stored, current, same | before⟩
  · exact same ▸ current
  · exact absurd ended (by simp [before.alive])

theorem eq_of_version {left right : Redemption} (leftKnown : left ∈ fleet.trail origin id)
    (rightKnown : right ∈ fleet.trail origin id) (sameVersion : left.version = right.version) :
    left = right :=
  Redemption.eq_of_version (coherent.linked id) leftKnown rightKnown sameVersion

theorem eq_of_wrote {left right : Nat} (leftWrote : fleet.Wrote left record)
    (rightWrote : fleet.Wrote right record) : left = right := by
  have ordered := Redemption.pairwise_before (coherent.linked record.id)
  have written := (List.pairwise_append.mp ordered).2.1
  rw [versions, List.pairwise_filterMap] at written
  have notTwice (earlier later : Nat) :
      ¬ ∀ first, HistoryEntry.version? record.id ⟨earlier, .stored record⟩ = some first →
        ∀ second, HistoryEntry.version? record.id ⟨later, .stored record⟩ = some second →
          first.Before second :=
    fun ordered => Nat.lt_irrefl _ (ordered record (if_pos rfl) record (if_pos rfl)).version
  rcases List.append_of_mem leftWrote with ⟨before, since, split⟩
  rw [split] at written
  rcases List.pairwise_append.mp written with ⟨-, later, across⟩
  rw [Wrote, split] at rightWrote
  rcases List.mem_append.mp rightWrote with earlier | here
  · exact absurd (across _ earlier _ List.mem_cons_self) (notTwice right left)
  · rcases List.mem_cons.mp here with same | after
    · cases same
      rfl
    · exact absurd ((List.pairwise_cons.mp later).1 _ after) (notTwice left right)

/-! ## Writes -/

/-- An update of a state that the store holds or has held lands exactly if it
holds that state. -/
theorem update_or_stale {base next : Redemption} (known : base ∈ fleet.trail origin base.id)
    (sameRequest : next.SameRequest base)
    (fits : (Request.update next base.version).Fits) :
    (LawfulStore.record? fleet.store base.id = some base ∧
      ∃ store, Store.update fleet.store next base.version = .ok (base.version + 1, store) ∧
        LawfulStore.Sound store ∧
        ∀ id, LawfulStore.record? store id =
          if id = next.id then some { next with version := base.version + 1 }
          else LawfulStore.record? fleet.store id) ∨
    LawfulStore.record? fleet.store base.id ≠ some base ∧
      Store.update fleet.store next base.version =
        .error (.versionConflict next.id base.version) := by
  rcases coherent.current_of_known known with ⟨stored, current, -⟩
  have storedKnown := coherent.known_of_current current
  rw [← sameRequest.id] at current ⊢
  by_cases sameVersion : stored.version = base.version
  · cases coherent.eq_of_version storedKnown known sameVersion
    exact .inl ⟨current, LawfulStore.update_of_current coherent.sound fits current sameRequest⟩
  · refine .inr ⟨?_, ?_⟩
    · rw [current]
      rintro ⟨⟩
      exact sameVersion rfl
    · have inWidth : base.version + 1 < Width.bound64 := fits.2.2.2.1
      exact LawfulStore.update_of_stale coherent.sound (Nat.lt_of_succ_lt inWidth) current
        sameVersion

end Coherent

variable (fleet) in
structure Lands (store : σ) (record : Redemption) : Prop where
  sound : LawfulStore.Sound store
  view : ∀ id, LawfulStore.record? store id =
    if id = record.id then some record else LawfulStore.record? fleet.store id

/-- What the store, the clock and the journal answer to a worker of a coherent
fleet, the store after that, and what has been done then. -/
inductive Served (origin : String → Option Redemption) (fleet : Fleet σ) (index : Nat)
    (member : Member) : (request : Request) → request.Answer → σ → List Deed → Prop where
  | listed {status : Status} {chain : Option String} {found : List Redemption}
      (stored : ∀ record ∈ found, LawfulStore.record? fleet.store record.id = some record ∧
        record.status = status ∧ matchesChain chain record.chain = true) :
      Served origin fleet index member (.listRecords status chain) (.ok found) fleet.store []
  | stamped : Served origin fleet index member .readClock fleet.seconds fleet.store []
  | created {record : Redemption} {store : σ} (begun : record.Begun fleet.Accepted)
      (vacant : LawfulStore.record? fleet.store record.id = none)
      (lands : fleet.Lands store record) :
      Served origin fleet index member (.create record) (.ok .created) store [.stored record]
  | taken {record : Redemption} :
      Served origin fleet index member (.create record) (.ok .alreadyExists) fleet.store []
  | updated {base next : Redemption} {expected : Nat} {store : σ}
      (isBase : base.version = expected)
      (precedes : base.Precedes { next with version := expected + 1 })
      (current : LawfulStore.record? fleet.store base.id = some base)
      (entitled : base.isLeased (fleet.outlook origin index member).admitted = false ∨
        fleet.Wrote index base)
      (lands : fleet.Lands store { next with version := expected + 1 }) :
      Served origin fleet index member (.update next expected) (.ok (expected + 1)) store
        [.stored { next with version := expected + 1 }]
  | stale {base next : Redemption} {expected : Nat} (isBase : base.version = expected)
      (known : base ∈ fleet.trail origin base.id) (sameRequest : next.SameRequest base)
      (superseded : LawfulStore.record? fleet.store base.id ≠ some base) :
      Served origin fleet index member (.update next expected)
        (.error (.versionConflict next.id expected)) fleet.store
        [.refused next (.versionConflict next.id expected)]
  | announced {milestone : Milestone} :
      Served origin fleet index member (.announce milestone) () fleet.store
        [.announced milestone]

theorem Coherent.served_of_answer? (coherent : fleet.Coherent origin) {request : Request}
    {answer : request.Answer} {next : Job} (there : fleet.members[index]? = some member)
    (answered : member.job.Answered request answer next) (fits : request.Fits)
    (serves : fleet.answer? request = some (answer, store, deeds)) :
    Served origin fleet index member request answer store deeds := by
  cases request with
  | listRecords status chain =>
      rcases LawfulStore.withStatus_of_sound status chain coherent.sound with ⟨found, lists, stored⟩
      simp only [answer?, lists] at serves
      cases serves
      exact .listed fun record listed => (stored record).mp listed
  | readClock =>
      cases serves
      exact .stamped
  | create record =>
      have begun := (coherent.traced _ _ there).create answered
      cases stored : LawfulStore.record? fleet.store record.id with
      | none =>
          rcases LawfulStore.create_of_vacant coherent.sound fits stored with
            ⟨after, creates, sound, view⟩
          simp only [answer?, creates] at serves
          cases serves
          exact .created begun stored ⟨sound, view⟩
      | some other =>
          simp only [answer?, LawfulStore.create_of_taken coherent.sound stored] at serves
          cases serves
          exact .taken
  | update next expected =>
      rcases (coherent.traced _ _ there).update answered with
        ⟨mandate, ⟨base, mark, now, logged, found, changed, rfl, entitled⟩⟩
      have sameRequest := Redemption.sameRequest_of_apply changed
      rcases coherent.update_or_stale found.known sameRequest fits with
        ⟨current, after, updates, sound, view⟩ | ⟨superseded, conflicts⟩
      · simp only [answer?, updates] at serves
        cases serves
        exact .updated rfl ⟨found.alive, mark, now, logged, next, changed, rfl⟩ current entitled
          ⟨sound, view⟩
      · simp only [answer?, conflicts] at serves
        cases serves
        exact .stale rfl found.known sameRequest superseded
  | perform call limit => cases serves
  | announce milestone =>
      cases serves
      exact .announced

/-- What a worker's move does to the records. -/
inductive Writes (origin : String → Option Redemption) (fleet : Fleet σ) (index : Nat)
    (member : Member) (store : σ) : List Deed → Prop where
  | nothing {deeds : List Deed} (quiet : ∀ record, .stored record ∉ deeds)
      (same : store = fleet.store) : Writes origin fleet index member store deeds
  | begun {record : Redemption} (begun : record.Begun fleet.Accepted)
      (vacant : LawfulStore.record? fleet.store record.id = none)
      (lands : fleet.Lands store record) : Writes origin fleet index member store [.stored record]
  | changed {base record : Redemption} (precedes : base.Precedes record)
      (current : LawfulStore.record? fleet.store base.id = some base)
      (entitled : base.isLeased (fleet.outlook origin index member).admitted = false ∨
        fleet.Wrote index base)
      (lands : fleet.Lands store record) : Writes origin fleet index member store [.stored record]

theorem Served.writes {request : Request} {answer : request.Answer}
    (served : Served origin fleet index member request answer store deeds) :
    Writes origin fleet index member store deeds := by
  cases served with
  | created begun vacant lands => exact .begun begun vacant lands
  | updated _ precedes current entitled lands => exact .changed precedes current entitled lands
  | listed | stamped | taken | stale | announced => exact .nothing (by simp) rfl

theorem Served.silent {request : Request} {answer : request.Answer}
    (served : Served origin fleet index member request answer store deeds)
    (silent : request.written? answer = none) :
    store = fleet.store ∧ ∀ record, .stored record ∉ deeds := by
  cases served with
  | created | updated => cases silent
  | listed | stamped | taken | stale | announced => exact ⟨rfl, by simp⟩

theorem quiet_of_failure? {request : Request} {answer : request.Answer} {error : StoreError}
    (fails : request.failure? error = some (answer, deeds)) (record : Redemption) :
    .stored record ∉ deeds := by
  cases request <;> cases fails <;> simp

theorem Coherent.writes_of_acts (coherent : fleet.Coherent origin) {action : Action}
    (there : fleet.members[index]? = some member)
    (acts : fleet.Acts member action after store deeds) :
    Writes origin fleet index member store deeds := by
  cases acts with
  | proceeded _ answered fits serves =>
      exact (coherent.served_of_answer? there answered fits serves).writes
  | failed _ _ fails => exact .nothing (quiet_of_failure? fails) rfl
  | called | heard | unheard | halted => exact .nothing (by simp) rfl

/-! ## Moves preserve coherence -/

theorem Coherent.grants_of_served (coherent : fleet.Coherent origin) {request : Request}
    {answer : request.Answer} (next : Job)
    (served : Served origin fleet index member request answer store deeds) :
    let after := member.goOn fleet.clock next
    ((fleet.replaced index after store deeds).outlook origin index after).Grants
      member.job.isAdmitting request answer := by
  intro after
  cases served with
  | listed stored =>
      intro record listed
      rcases stored record listed with ⟨current, ofStatus, ofChain⟩
      exact ⟨mem_trail_replaced (coherent.known_of_current current), ofStatus, ofChain⟩
  | stamped =>
      intro admitting
      simp [after, outlook, Member.goOn, admitting, seconds]
  | created => exact ⟨mem_trail_of_wrote wrote_stored, wrote_stored⟩
  | updated => exact ⟨rfl, mem_trail_of_wrote wrote_stored, wrote_stored⟩
  | taken | stale | announced => trivial

theorem grants_of_failure? (outlook : Outlook) {isAdmitting : Bool} {request : Request}
    {answer : request.Answer} {error : StoreError}
    (fails : request.failure? error = some (answer, deeds)) :
    outlook.Grants isAdmitting request answer := by
  cases request <;> cases fails <;> trivial

omit [Store σ] [LawfulStore σ] in
theorem widens_replaced {other : Nat} {left right : Member}
    (sameAdmission : right.admittedAt = left.admittedAt) :
    (fleet.outlook origin other left).Widens
      ((fleet.replaced index after store deeds).outlook origin other right) where
  known known := mem_trail_replaced known
  own wrote := wrote.replaced
  accepted := id
  admitted := congrArg (· / Duration.nanosecondsPerSecond) sameAdmission

theorem Coherent.traced_of_acts (coherent : fleet.Coherent origin) {action : Action}
    (there : fleet.members[index]? = some member)
    (acts : fleet.Acts member action after store deeds) :
    after.job.Traced ((fleet.replaced index after store deeds).outlook origin index after) := by
  have traced := coherent.traced _ _ there
  cases acts with
  | @proceeded request answer next store deeds _ answered fits serves =>
      have served := coherent.served_of_answer? there answered fits serves
      have grants := coherent.grants_of_served next served
      -- The clock is noted as the record is admitted, before the worker goes on.
      rw [Member.job_goOn]
      cases admitting : member.job.isAdmitting with
      | true =>
          refine ((traced.readmit admitting fleet.seconds).widen ?_).resume answered grants
          refine ⟨fun known => mem_trail_replaced known, fun wrote => wrote.replaced, id, ?_⟩
          simp [outlook, Member.goOn, admitting, seconds]
      | false =>
          refine (traced.widen (widens_replaced ?_)).resume answered grants
          simp [Member.goOn, admitting]
  | failed _ answered fails =>
      exact (traced.widen (widens_replaced rfl)).resume answered (grants_of_failure? _ fails)
  | called => exact traced.widen (widens_replaced rfl)
  | heard _ _ _ answered => exact (traced.widen (widens_replaced rfl)).resume answered trivial
  | unheard => exact traced.widen (widens_replaced rfl)
  | halted => exact traced.widen (widens_replaced rfl)

section Replaced

variable (coherent : fleet.Coherent origin) (there : fleet.members[index]? = some member)
include coherent there

theorem Coherent.traced_replaced
    (traced : after.job.Traced
      ((fleet.replaced index after store deeds).outlook origin index after))
    {other : Nat} {member' : Member}
    (found : (fleet.replaced index after store deeds).members[other]? = some member') :
    member'.job.Traced ((fleet.replaced index after store deeds).outlook origin other member') := by
  rcases getElem?_replaced there found with ⟨rfl, rfl⟩ | ⟨-, before⟩
  · exact traced
  · exact (coherent.traced _ _ before).widen (widens_replaced rfl)

theorem Coherent.replaced_quiet (quiet : ∀ record, .stored record ∉ deeds)
    (traced : after.job.Traced
      ((fleet.replaced index after fleet.store deeds).outlook origin index after)) :
    (fleet.replaced index after fleet.store deeds).Coherent origin where
  sound := coherent.sound
  current id := (coherent.current id).trans (by rw [trail_replaced_quiet quiet])
  linked id := by
    rw [trail_replaced_quiet quiet]
    exact coherent.linked id
  begun id absent := by
    rw [versions_replaced_quiet quiet]
    exact coherent.begun id absent
  traced _ _ found := coherent.traced_replaced there traced found

theorem Coherent.replaced_stored (lands : fleet.Lands store record)
    (follows : ∀ last ∈ LawfulStore.record? fleet.store record.id, last.Precedes record)
    (begins : LawfulStore.record? fleet.store record.id = none → record.Begun fleet.Accepted)
    (traced : after.job.Traced
      ((fleet.replaced index after store [.stored record]).outlook origin index after)) :
    (fleet.replaced index after store [.stored record]).Coherent origin where
  sound := lands.sound
  current id := by
    refine (lands.view id).trans ?_
    rw [trail_replaced_stored]
    by_cases same : id = record.id
    · rw [if_pos same, if_pos same.symm, List.getLast?_concat]
    · rw [if_neg same, if_neg fun equal => same equal.symm, coherent.current]
  linked id := by
    rw [trail_replaced_stored]
    split
    · next same =>
        refine (coherent.linked id).append (List.isChain_singleton _) ?_
        rintro last lastThere _ ⟨⟩
        rw [← coherent.current, ← same] at lastThere
        exact follows last lastThere
    · exact coherent.linked id
  begun id absent := by
    rw [versions_replaced_stored]
    split
    · next same =>
        cases versions : fleet.versions id with
        | nil =>
            rintro _ ⟨⟩
            refine begins ?_
            rw [coherent.current, same, trail, absent, versions]
            rfl
        | cons first later =>
            rintro _ ⟨⟩
            exact coherent.begun id absent first (by rw [versions]; rfl)
    · exact coherent.begun id absent
  traced _ _ found := coherent.traced_replaced there traced found

theorem Coherent.replaced {action : Action}
    (acts : fleet.Acts member action after store deeds) :
    (fleet.replaced index after store deeds).Coherent origin := by
  have traced := coherent.traced_of_acts there acts
  cases coherent.writes_of_acts there acts with
  | nothing quiet same =>
      subst same
      exact coherent.replaced_quiet there quiet traced
  | begun begun vacant lands =>
      refine coherent.replaced_stored there lands ?_ (fun _ => begun) traced
      rw [vacant]
      exact fun _ impossible => nomatch impossible
  | changed precedes current _ lands =>
      rw [← precedes.id] at current
      refine coherent.replaced_stored there lands ?_ ?_ traced
      · rw [current]
        rintro _ ⟨⟩
        exact precedes
      · rw [current]
        exact fun impossible => nomatch impossible

end Replaced

theorem Coherent.joined (coherent : fleet.Coherent origin) {job : Job}
    (traced : ∀ index member, job.Traced (fleet.outlook origin index member)) :
    (fleet.joined job).Coherent origin where
  sound := coherent.sound
  current := coherent.current
  linked := coherent.linked
  begun := coherent.begun
  traced index member found := by
    rcases getElem?_joined found with rfl | before
    · exact traced _ _
    · exact coherent.traced index member before

omit [Store σ] [LawfulStore σ] in
theorem accepted_told {listener : Listener} {raw : RawEvent} {chain : String} {event : Event}
    (accepted : fleet.Accepted chain event) : (fleet.told listener raw).Accepted chain event := by
  rcases accepted with ⟨listener, raw, told, onChain, requested⟩
  exact ⟨listener, raw, List.mem_append_left _ told, onChain, requested⟩

theorem Coherent.told (coherent : fleet.Coherent origin) (listener : Listener) (raw : RawEvent) :
    (fleet.told listener raw).Coherent origin where
  sound := coherent.sound
  current := coherent.current
  linked := coherent.linked
  begun id absent first isFirst := (coherent.begun id absent first isFirst).widen accepted_told
  traced index member found :=
    (coherent.traced index member found).widen ⟨id, id, accepted_told, rfl⟩

theorem Coherent.step {next : Fleet σ} {move : Move} (coherent : fleet.Coherent origin)
    (step : fleet.step? move = some next) : next.Coherent origin := by
  cases steps_of_step? step with
  | passed => exact { coherent with }
  | @batchLaunched phase policy chain =>
      exact coherent.joined fun _ _ => Batch.traced_start phase policy chain _
  | @intakeLaunched listener raw =>
      refine (coherent.told listener raw).joined fun _ _ => Intake.traced_start ?_
      intro event requested
      exact ⟨listener, raw, List.mem_append_right _ (List.mem_singleton_self _), rfl, requested⟩
  | acted there acts => exact coherent.replaced there acts

theorem coherent_initial (sound : LawfulStore.Sound store) (clock : Nat) :
    (initial store clock).Coherent (LawfulStore.record? store) where
  sound := sound
  current id := by
    show LawfulStore.record? store id = ((LawfulStore.record? store id).toList ++ []).getLast?
    cases LawfulStore.record? store id <;> rfl
  linked id := by
    show ((LawfulStore.record? store id).toList ++ []).IsChain _
    cases LawfulStore.record? store id with
    | none => exact List.isChain_nil
    | some record => exact List.isChain_singleton record
  begun _ _ _ impossible := nomatch impossible
  traced _ _ impossible := nomatch impossible

theorem Run.coherent {allowed : Fleet σ → Move → Prop} {clock : Nat}
    (sound : LawfulStore.Sound store) (run : Run allowed (initial store clock) fleet) :
    fleet.Coherent (LawfulStore.record? store) := by
  induction run with
  | rest => exact coherent_initial sound clock
  | move move _ _ step coherent => exact coherent.step step

end Fleet

end RedemptionRelay
