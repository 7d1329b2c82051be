import RedemptionRelay.Proofs.Fleet.Reception
import RedemptionRelay.Proofs.Intake.Delivery

/-! # Events that come again

Under an identifier at most one worker ever makes a record, and it is made from
that worker's event. A worker who is told of an event when its record is stored
already never makes one, whatever the others do meanwhile. An event that comes
now, however often it has failed before, gets its record unless there is one.
-/

namespace RedemptionRelay

namespace Fleet

variable {σ : Type}

/-! ## The event of a worker -/

section

variable {fleet next : Fleet σ} {index : Nat} {listener other : Listener} {raw raw' : RawEvent}

theorem Handles.unique (handles : fleet.Handles index listener raw)
    (also : fleet.Handles index other raw') : listener = other ∧ raw = raw' :=
  Prod.mk.inj (Option.some.inj (handles.2.symm.trans also.2))

theorem member_of_intakes (isIntake : fleet.intakes[index]? = some true) :
    ∃ (member : Member) (work : Intake), fleet.members[index]? = some member ∧
      member.job = .intake work := by
  rw [intakes, List.getElem?_map] at isIntake
  rcases Option.map_eq_some_iff.mp isIntake with ⟨member, there, isIntake⟩
  cases job : member.job with
  | intake work => exact ⟨member, work, there, job⟩
  | batch work =>
      rw [job] at isIntake
      cases isIntake

end

variable [Store σ] [LawfulStore σ] {origin : String → Option Redemption} {fleet next : Fleet σ}
  {index left right : Nat} {listener : Listener} {raw : RawEvent} {event : Event} {id : String}
  {member after : Member} {record : Redemption} {action : Action} {store : σ} {deeds : List Deed}

theorem Received.of_handles (received : fleet.Received)
    (handles : fleet.Handles index listener raw) :
    ∃ (member : Member) (work : Intake), fleet.members[index]? = some member ∧
      member.job = .intake work ∧ fleet.Receives index listener raw work := by
  rcases member_of_intakes handles.1 with ⟨member, work, there, isIntake⟩
  rcases received.intakes _ _ _ there isIntake with ⟨other, raw', also, receives⟩
  rcases also.unique handles with ⟨rfl, rfl⟩
  exact ⟨member, work, there, isIntake, receives⟩

theorem Received.handles_of_grown (received : fleet.Received) (grows : fleet.Grows next)
    (inside : index < fleet.members.length) (handles : next.Handles index listener raw) :
    fleet.Handles index listener raw := by
  have isIntake : fleet.intakes[index]? = some true := by
    rcases grows.intakes with ⟨more, whole⟩
    have among : index < fleet.intakes.length := by simpa [Fleet.intakes] using inside
    rw [← handles.1, ← whole, List.getElem?_append_left among]
  rcases member_of_intakes isIntake with ⟨member, work, there, isIntake⟩
  rcases received.intakes _ _ _ there isIntake with ⟨other, raw', before, -⟩
  rcases (before.grow grows).unique handles with ⟨rfl, rfl⟩
  exact before

def Concerns (fleet : Fleet σ) (index : Nat) (id : String) : Prop :=
  ∃ listener raw event, fleet.Handles index listener raw ∧ listener.request raw = .ok event ∧
    event.sourceTxHash = id

omit [Store σ] [LawfulStore σ] in
theorem Concerns.grow (concerns : fleet.Concerns index id) (grows : fleet.Grows next) :
    next.Concerns index id := by
  rcases concerns with ⟨listener, raw, event, handles, accepted⟩
  exact ⟨listener, raw, event, handles.grow grows, accepted⟩

theorem Received.concerns_of_grown (received : fleet.Received) (grows : fleet.Grows next)
    (inside : index < fleet.members.length) (concerns : next.Concerns index id) :
    fleet.Concerns index id := by
  rcases concerns with ⟨listener, raw, event, handles, accepted⟩
  exact ⟨listener, raw, event, received.handles_of_grown grows inside handles, accepted⟩

theorem Receives.of_error {work : Intake} {reason : String}
    (receives : fleet.Receives index listener raw work)
    (skipped : listener.request raw = .error reason) :
    work = .finished (.ok (.skipped reason)) := by
  rcases receives with ⟨reports, tells, -, -, -⟩
  rcases work with _ | _ | _ | _ | (_ | (_ | _ | other))
  case stamping | logging => cases skipped.symm.trans reports.2
  case creating =>
    rcases reports with ⟨event, -, -, accepted, -⟩
    cases skipped.symm.trans accepted
  case announcing | finished.ok.created =>
    rcases tells with ⟨event, accepted, -⟩
    cases skipped.symm.trans accepted
  case finished.error =>
    rcases tells with ⟨event, accepted⟩
    cases skipped.symm.trans accepted
  case finished.ok.duplicate =>
    rcases tells.1 with ⟨event, accepted, -⟩
    cases skipped.symm.trans accepted
  case finished.ok.skipped =>
    cases skipped.symm.trans tells
    rfl

/-! ## Who makes a record -/

/-- The worker has stored a first state under the identifier. -/
def Creates (fleet : Fleet σ) (index : Nat) (id : String) : Prop :=
  ∃ record, fleet.Wrote index record ∧ record.id = id ∧ record.version = 0

/-- The record is the one made from the event of this worker, or a later state of it. -/
def Authors (fleet : Fleet σ) (index : Nat) (record : Redemption) : Prop :=
  ∃ listener raw event now logged, fleet.Handles index listener raw ∧
    listener.request raw = .ok event ∧
    fleet.Wrote index (Redemption.observed raw.chain event now logged) ∧
    (fleet.versions record.id).head? = some (Redemption.observed raw.chain event now logged) ∧
    record.SameRequest (Redemption.observed raw.chain event now logged)

theorem Coherent.eq_of_creates (coherent : fleet.Coherent origin) (first : fleet.Creates left id)
    (second : fleet.Creates right id) : left = right := by
  rcases first with ⟨record, wrote, rfl, version⟩
  rcases second with ⟨other, otherWrote, sameId, otherVersion⟩
  have known : other ∈ fleet.trail origin record.id := sameId ▸ mem_trail_of_wrote otherWrote
  cases coherent.eq_of_version (mem_trail_of_wrote wrote) known (version.trans otherVersion.symm)
  exact coherent.eq_of_wrote wrote otherWrote

theorem Coherent.not_creates_of_origin (coherent : fleet.Coherent origin)
    (stored : (origin id).isSome = true) : ¬ fleet.Creates index id := by
  rintro ⟨record, wrote, rfl, version⟩
  rcases Option.isSome_iff_exists.mp stored with ⟨first, stored⟩
  have ordered := Redemption.pairwise_before (coherent.linked record.id)
  rw [trail, stored] at ordered
  have later := (List.pairwise_cons.mp ordered).1 record (mem_versions_of_wrote wrote)
  exact Nat.not_lt_zero _ (version ▸ later.version)

theorem Coherent.holds_of_known (coherent : fleet.Coherent origin)
    (known : record ∈ fleet.trail origin id) : fleet.Holds id := by
  rcases coherent.current_of_known known with ⟨stored, current, -⟩
  rw [Holds, current]
  rfl

theorem Received.wrote_first (received : fleet.Received) (wrote : fleet.Wrote index record)
    (isFirst : record.version = 0) :
    ∃ listener raw event now logged, fleet.Handles index listener raw ∧
      listener.request raw = .ok event ∧
      record = Redemption.observed raw.chain event now logged := by
  have enrolled : ∃ member, fleet.members[index]? = some member :=
    ⟨_, List.getElem?_eq_getElem (received.enrolled index record wrote)⟩
  rcases enrolled with ⟨member, there⟩
  cases job : member.job with
  | batch work => exact absurd isFirst (received.batches _ _ _ there job record wrote)
  | intake work =>
      rcases received.intakes _ _ _ there job with ⟨listener, raw, handles, receives⟩
      cases barren : work.isBarren with
      | true => exact absurd wrote (receives.barren barren record)
      | false =>
          rcases receives.fertile barren with ⟨event, now, logged, requested, same⟩
          exact ⟨listener, raw, event, now, logged, handles, requested, (same record).mp wrote⟩

theorem authored (coherent : fleet.Coherent origin) (received : fleet.Received)
    (vacant : origin id = none) (stored : LawfulStore.record? fleet.store id = some record) :
    ∃ index, fleet.Authors index record ∧ ∀ other, fleet.Creates other id ↔ other = index := by
  have sameId := LawfulStore.id_of_record? coherent.sound stored
  subst sameId
  have known := coherent.known_of_current stored
  have onlyVersions : fleet.trail origin record.id = fleet.versions record.id := by
    rw [trail, vacant]
    rfl
  cases versions : fleet.versions record.id with
  | nil =>
      rw [onlyVersions, versions] at known
      exact absurd known List.not_mem_nil
  | cons first later =>
      have amongFirst : first ∈ fleet.versions record.id := versions ▸ List.mem_cons_self
      rcases wrote_of_mem_versions amongFirst with ⟨index, wrote⟩
      rcases coherent.begun record.id vacant first (by rw [versions]; rfl) with
        ⟨chain, event, now, logged, -, isObserved⟩
      have isFirst : first.version = 0 := by rw [isObserved]; rfl
      have ordered := Redemption.pairwise_before (coherent.linked record.id)
      rw [onlyVersions, versions] at ordered known
      have sameRequest : record.SameRequest first := by
        rcases List.mem_cons.mp known with rfl | among
        · exact ⟨rfl, rfl, rfl, rfl⟩
        · exact ((List.pairwise_cons.mp ordered).1 record among).request
      -- Batches write no first versions, so that the writer takes an event in.
      rcases received.wrote_first wrote isFirst with
        ⟨listener, raw, event, now, logged, handles, requested, rfl⟩
      have creates : fleet.Creates index record.id := ⟨_, wrote, sameRequest.id.symm, rfl⟩
      refine ⟨index, ⟨listener, raw, event, now, logged, handles, requested, wrote, ?_,
        sameRequest⟩, fun other => ⟨fun also => coherent.eq_of_creates also creates, ?_⟩⟩
      · rw [versions]
        rfl
      · rintro rfl
        exact creates

/-! ## Workers who come too late -/

/-- The worker is told of an event whose record is stored, and has made none. -/
structure Forestalled (fleet : Fleet σ) (index : Nat) (id : String) : Prop where
  holds : fleet.Holds id
  concerns : fleet.Concerns index id
  barren : ∀ member, fleet.members[index]? = some member → member.job.isBarren = true

theorem forestalled_joined (staffed : fleet.Staffed) (accepted : listener.request raw = .ok event)
    (holds : fleet.Holds event.sourceTxHash) :
    ((fleet.told listener raw).joined (.intake (Intake.start listener raw))).Forestalled
      fleet.members.length event.sourceTxHash where
  holds := holds
  concerns := ⟨listener, raw, event, handles_last staffed.one rfl, accepted, rfl⟩
  barren member there := by
    have isLast : ((fleet.told listener raw).joined
        (.intake (Intake.start listener raw))).members[fleet.members.length]? =
          some { job := .intake (Intake.start listener raw) } := List.getElem?_concat_length
    cases isLast.symm.trans there
    exact Intake.isBarren_start listener raw

theorem Forestalled.step {move : Move} (forestalled : fleet.Forestalled index id)
    (coherent : fleet.Coherent origin) (received : fleet.Received)
    (steps : fleet.Steps move next) : next.Forestalled index id := by
  have grown := forestalled.concerns.grow (grows_of_steps steps)
  rcases forestalled.concerns with ⟨listener, raw, event, handles, accepted, sameId⟩
  rcases received.of_handles handles with ⟨member, work, there, isIntake, receives⟩
  have inside := (List.getElem?_eq_some_iff.mp there).1
  have barrenHere := forestalled.barren member there
  cases steps with
  | passed => exact ⟨forestalled.holds, grown, forestalled.barren⟩
  | batchLaunched | intakeLaunched =>
      refine ⟨forestalled.holds, grown, fun member' there' => ?_⟩
      exact forestalled.barren member' ((List.getElem?_append_left inside).symm.trans there')
  | @acted acting actor after action store deeds actorThere acts =>
      refine ⟨coherent.holds_of_acts actorThere acts forestalled.holds, grown,
        fun member' there' => ?_⟩
      rcases getElem?_replaced actorThere there' with ⟨rfl, rfl⟩ | ⟨-, before⟩
      · cases actorThere.symm.trans there
        rcases coherent.receiving_of_acts there isIntake acts with ⟨later, isLater, receiving⟩
        rw [isIntake] at barrenHere
        rw [isLater]
        cases receiving with
        | rested => exact barrenHere
        | stamped | logged | taken | failed => rfl
        | created vacant =>
            -- The record that it would make is there.
            rcases receives.reports with ⟨event', now, logged, requested, rfl⟩
            cases accepted.symm.trans requested
            have holds := forestalled.holds
            rw [← sameId, Holds, show LawfulStore.record? fleet.store event.sourceTxHash = none
              from vacant] at holds
            cases holds
        | announced => cases barrenHere
      · exact forestalled.barren member' before

theorem Forestalled.follow? {start : σ} {clock : Nat} {moves : List Move}
    (forestalled : fleet.Forestalled index id) (sound : LawfulStore.Sound start)
    (run : Run Free (initial start clock) fleet)
    (followed : fleet.follow? Free moves = some next) : next.Forestalled index id := by
  induction moves generalizing fleet with
  | nil => exact Option.some.inj followed ▸ forestalled
  | cons move later induction =>
      rw [follow?_cons] at followed
      rcases Option.bind_eq_some_iff.mp followed with ⟨between, step, followed⟩
      have after := forestalled.step (run.coherent sound) (run.received sound) (steps_of_step? step)
      exact induction after (run.move move trivial step) followed

theorem Forestalled.outcome (forestalled : fleet.Forestalled index id)
    (received : fleet.Received) :
    ∃ (member : Member) (work : Intake), fleet.members[index]? = some member ∧
      member.job = .intake work ∧ work.isBarren = true ∧
      (∀ record, ¬ fleet.Wrote index record) ∧
      ∀ outcome, work = .finished (.ok outcome) → outcome = .duplicate id := by
  rcases forestalled.concerns with ⟨listener, raw, event, handles, accepted, rfl⟩
  rcases received.of_handles handles with ⟨member, work, there, isIntake, receives⟩
  have barren := forestalled.barren member there
  rw [isIntake] at barren
  refine ⟨member, work, there, isIntake, barren, receives.barren barren, ?_⟩
  rintro outcome rfl
  cases outcome with
  | created => cases barren
  | duplicate id =>
      rcases receives.tells.1 with ⟨event', requested, rfl⟩
      cases accepted.symm.trans requested
      rfl
  | skipped reason => cases accepted.symm.trans receives.tells

/-! ## An event that comes now -/

section

variable {work : Intake} {request : Request} {resume : request.Answer → Intake}
  {answer : request.Answer} {steps : Nat}

omit [LawfulStore σ] in
theorem follow?_proceed (there : fleet.members[index]? = some { job := .intake work })
    (asks : work.next = .ask request resume) (fits : request.Fits)
    (serves : fleet.answer? request = some (answer, store, deeds)) :
    fleet.follow? Free (List.replicate (steps + 1) (.act index .proceed)) =
      (fleet.replaced index { job := .intake (resume answer) } store deeds).follow? Free
        (List.replicate steps (.act index .proceed)) := by
  have proceeds : fleet.step? (.act index .proceed) =
      some (fleet.replaced index { job := .intake (resume answer) } store deeds) := by
    simp [step?, there, act?, Job.next, asks, Next.map, fits, serves, Member.goOn, Job.isAdmitting]
  rw [List.replicate_succ, follow?_cons, proceeds]
  rfl

variable (fleet) in
omit [LawfulStore σ] in
theorem follow?_to_creating (accepted : listener.request raw = .ok event) :
    ∃ creating : Fleet σ, creating.store = fleet.store ∧
      creating.members[fleet.members.length]? = some { job := .intake (.creating
        (Redemption.observed raw.chain event fleet.seconds fleet.seconds)) } ∧
      ∀ steps, fleet.follow? Free (.launchIntake listener raw ::
          List.replicate (steps + 2) (.act fleet.members.length .proceed)) =
        creating.follow? Free (List.replicate steps (.act fleet.members.length .proceed)) := by
  let start := (fleet.told listener raw).joined (.intake (.stamping raw.chain event))
  have startThere : start.members[fleet.members.length]? =
      some { job := .intake (.stamping raw.chain event) } := List.getElem?_concat_length
  let logging := start.replaced fleet.members.length
    { job := .intake (.logging raw.chain event fleet.seconds) } fleet.store []
  have loggingThere : logging.members[fleet.members.length]? =
      some { job := .intake (.logging raw.chain event fleet.seconds) } :=
    getElem?_replaced_self startThere
  let creating := logging.replaced fleet.members.length { job := .intake (.creating
    (Redemption.observed raw.chain event fleet.seconds fleet.seconds)) } fleet.store []
  refine ⟨creating, rfl, getElem?_replaced_self loggingThere, fun steps => ?_⟩
  have begins : Intake.start listener raw = .stamping raw.chain event := by
    unfold Intake.start
    rw [accepted]
  show ((fleet.told listener raw).joined (.intake (Intake.start listener raw))).follow? Free _ = _
  rw [begins]
  exact (follow?_proceed startThere rfl trivial rfl).trans
    (follow?_proceed loggingThere rfl trivial rfl)

end

/-- What comes of an event that is taken in without a break. -/
structure Delivers (fleet : Fleet σ) (listener : Listener) (raw : RawEvent) (last : Fleet σ) :
    Prop where
  answered : last.members[fleet.members.length]? = some { job := .intake (.finished (.ok
    (listener.outcome (fun id => (LawfulStore.record? fleet.store id).isSome) raw))) }
  skipped : ∀ reason, listener.request raw = .error reason → last.store = fleet.store
  taken : ∀ event, listener.request raw = .ok event → fleet.Holds event.sourceTxHash →
    last.store = fleet.store
  made : ∀ event, listener.request raw = .ok event → ¬ fleet.Holds event.sourceTxHash →
    fleet.Lands last.store (Redemption.observed raw.chain event fleet.seconds fleet.seconds)

theorem delivered_of_error {reason : String}
    (skipped : listener.request raw = .error reason) :
    ∃ last, fleet.follow? Free [.launchIntake listener raw] = some last ∧
      fleet.Delivers listener raw last := by
  have begins : Intake.start listener raw = .finished (.ok (.skipped reason)) := by
    unfold Intake.start
    rw [skipped]
  refine ⟨(fleet.told listener raw).joined (.intake (.finished (.ok (.skipped reason)))), ?_, ?_,
    fun _ _ => rfl, ?_, ?_⟩
  · rw [← begins]
    rfl
  · rw [Listener.outcome, skipped]
    exact List.getElem?_concat_length
  · intro event accepted
    cases skipped.symm.trans accepted
  · intro event accepted
    cases skipped.symm.trans accepted

section

variable (sound : LawfulStore.Sound fleet.store) (fits : fleet.seconds < Width.bound64)
include sound fits

theorem delivered_of_taken {stored : Redemption} (accepted : listener.request raw = .ok event)
    (taken : LawfulStore.record? fleet.store event.sourceTxHash = some stored) :
    ∃ steps last, fleet.follow? Free (.launchIntake listener raw ::
        List.replicate steps (.act fleet.members.length .proceed)) = some last ∧
      fleet.Delivers listener raw last := by
  rcases fleet.follow?_to_creating accepted with ⟨creating, sameStore, there, reaches⟩
  let record := Redemption.observed raw.chain event fleet.seconds fleet.seconds
  have inRange : record.InRange :=
    Redemption.inRange_observed raw.chain (Listener.inRange_of_request accepted) fits fits
  have takenHere : LawfulStore.record? fleet.store record.id = some stored := taken
  have serves : creating.answer? (.create record) =
      some (.ok .alreadyExists, fleet.store, []) := by
    rw [answer?, sameStore, LawfulStore.create_of_taken sound takenHere]
  refine ⟨3, _, (reaches 1).trans (follow?_proceed there rfl inRange serves), ?_,
    fun _ _ => rfl, fun _ _ _ => rfl, fun event' requested vacant => ?_⟩
  · rw [getElem?_replaced_self there, Listener.outcome, accepted]
    simp [taken, Redemption.observed, Redemption.log]
  · cases accepted.symm.trans requested
    exact absurd (by rw [Holds, taken]; rfl) vacant

theorem delivered_of_vacant (accepted : listener.request raw = .ok event)
    (vacant : LawfulStore.record? fleet.store event.sourceTxHash = none) :
    ∃ steps last, fleet.follow? Free (.launchIntake listener raw ::
        List.replicate steps (.act fleet.members.length .proceed)) = some last ∧
      fleet.Delivers listener raw last := by
  rcases fleet.follow?_to_creating accepted with ⟨creating, sameStore, there, reaches⟩
  let record := Redemption.observed raw.chain event fleet.seconds fleet.seconds
  have inRange : record.InRange :=
    Redemption.inRange_observed raw.chain (Listener.inRange_of_request accepted) fits fits
  rcases LawfulStore.create_of_vacant sound inRange vacant with ⟨store, creates, soundAfter, view⟩
  have serves : creating.answer? (.create record) =
      some (.ok .created, store, [.stored record]) := by
    rw [answer?, sameStore, creates]
  let announcing := creating.replaced fleet.members.length { job := .intake (.announcing record) }
    store [.stored record]
  have announcingThere : announcing.members[fleet.members.length]? =
      some { job := .intake (.announcing record) } := getElem?_replaced_self there
  refine ⟨4, _, (reaches 2).trans ((follow?_proceed there rfl inRange serves).trans
    (follow?_proceed announcingThere rfl trivial rfl)), ?_, ?_, ?_, ?_⟩
  · rw [getElem?_replaced_self announcingThere, Listener.outcome, accepted]
    simp [vacant, record, Redemption.observed, Redemption.log]
  · intro reason skipped
    cases accepted.symm.trans skipped
  · intro event' requested taken
    cases accepted.symm.trans requested
    rw [Holds, vacant] at taken
    cases taken
  · intro event' requested _
    cases accepted.symm.trans requested
    exact ⟨soundAfter, view⟩

theorem delivered (listener : Listener) (raw : RawEvent) :
    ∃ steps last, fleet.follow? Free (.launchIntake listener raw ::
        List.replicate steps (.act fleet.members.length .proceed)) = some last ∧
      fleet.Delivers listener raw last := by
  cases accepted : listener.request raw with
  | error reason => exact ⟨0, delivered_of_error accepted⟩
  | ok event =>
      cases stored : LawfulStore.record? fleet.store event.sourceTxHash with
      | some record => exact delivered_of_taken sound fits accepted stored
      | none => exact delivered_of_vacant sound fits accepted stored

end

end Fleet

end RedemptionRelay
