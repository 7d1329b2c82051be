import RedemptionRelay.Proofs.Fleet.Delivery
import RedemptionRelay.Proofs.Fleet.Omission
import RedemptionRelay.Proofs.Store.Listing

/-! # Replays

Events may come any number of times, between any moves of other workers and
however often the store fails. There is never more than one record for an
identifier, it goes back to the one event whose record was stored, and an event
that comes again finds it and changes nothing. Where events come one after the
other and none of them fails, a run comes to the same without all the replays.
-/

namespace RedemptionRelay

def Job.isSettled : Job → Bool
  | .intake (.finished _) => true
  | .intake _ => false
  | .batch _ => true

namespace Fleet

variable {σ : Type}

/-- Events come one after the other, and the store fails for none of them. -/
def InTurn (fleet : Fleet σ) : Move → Prop
  | .launchIntake _ _ => ∀ member ∈ fleet.members, member.job.isSettled = true
  | .act index (.fail _) => fleet.intakes[index]? ≠ some true
  | _ => True

instance (fleet : Fleet σ) : (move : Move) → Decidable (fleet.InTurn move)
  | .launchIntake _ _ =>
      inferInstanceAs (Decidable (∀ member ∈ fleet.members, member.job.isSettled = true))
  | .act index (.fail _) => inferInstanceAs (Decidable (fleet.intakes[index]? ≠ some true))
  | .act _ .proceed | .act _ .call | .act _ (.hear _) | .act _ .halt =>
      inferInstanceAs (Decidable True)
  | .pass _ | .launchBatch _ _ _ => inferInstanceAs (Decidable True)

variable [Store σ] [LawfulStore σ]

/-- The identifier is stored from the start, or an earlier worker is told of a
request with it. -/
def IsKnown (fleet : Fleet σ) (store : σ) (index : Nat) (id : String) : Prop :=
  (LawfulStore.record? store id).isSome = true ∨ ∃ earlier < index, fleet.Concerns earlier id

/-- The worker's event reports no request, or one that is known by then. -/
def IsReplay (fleet : Fleet σ) (store : σ) (index : Nat) : Prop :=
  fleet.intakes[index]? = some true ∧
    ∀ id, fleet.Concerns index id → fleet.IsKnown store index id

variable {origin : String → Option Redemption} {fleet next : Fleet σ} {start store : σ}
  {clock index : Nat} {move : Move} {moves : List Move} {id : String} {listener : Listener}
  {raw : RawEvent} {event : Event} {omitted : Nat → Bool}

def identifier? (fleet : Fleet σ) (index : Nat) : Option String :=
  if fleet.intakes[index]? = some true then
    fleet.events[(fleet.intakes.take index).count true]?.bind fun (listener, raw) =>
      (listener.request raw).toOption.map (·.sourceTxHash)
  else none

omit [Store σ] [LawfulStore σ] in
theorem concerns_iff : fleet.Concerns index id ↔ fleet.identifier? index = some id := by
  constructor
  · rintro ⟨listener, raw, event, ⟨isIntake, told⟩, accepted, rfl⟩
    rw [identifier?, if_pos isIntake, told, Option.bind_some]
    dsimp only
    rw [accepted]
    rfl
  · intro identified
    unfold identifier? at identified
    split at identified
    · next isIntake =>
        rcases Option.bind_eq_some_iff.mp identified with ⟨⟨listener, raw⟩, told, requested⟩
        rcases Option.map_eq_some_iff.mp requested with ⟨event, accepted, rfl⟩
        cases request : listener.request raw with
        | error reason =>
            rw [request] at accepted
            cases accepted
        | ok other =>
            rw [request] at accepted
            cases accepted
            exact ⟨listener, raw, event, ⟨isIntake, told⟩, request, rfl⟩
    · cases identified

/-! ## Events in turn -/

theorem Received.holds_of_settled (received : fleet.Received) (coherent : fleet.Coherent origin)
    (concerns : fleet.Concerns index id)
    (settled : ∀ member ∈ fleet.members, member.job.isSettled = true)
    (unfailing : ∀ (member : Member) error, fleet.members[index]? = some member →
      member.job ≠ .intake (.finished (.error error))) :
    fleet.Holds id := by
  rcases concerns with ⟨listener, raw, event, handles, accepted, rfl⟩
  rcases received.of_handles handles with ⟨member, work, there, isIntake, receives⟩
  have isSettled := settled member (List.mem_of_getElem? there)
  rw [isIntake] at isSettled
  rcases work with _ | _ | _ | _ | (error | (id | id | reason))
  case finished.error => exact absurd isIntake (unfailing member error there)
  case finished.ok.created =>
    rcases receives.fertile rfl with ⟨event', now, logged, requested, wrote⟩
    cases accepted.symm.trans requested
    exact coherent.holds_of_known (mem_trail_of_wrote ((wrote _).mpr rfl))
  case finished.ok.duplicate =>
    rcases receives.tells with ⟨⟨event', requested, rfl⟩, holds⟩
    cases accepted.symm.trans requested
    exact holds
  case finished.ok.skipped => cases accepted.symm.trans receives.tells
  all_goals cases isSettled

/-- No event has failed, and whoever is told of a known request comes too late. -/
structure Orderly (start : σ) (fleet : Fleet σ) : Prop where
  unfailing : ∀ (index : Nat) (member : Member) error, fleet.members[index]? = some member →
    member.job ≠ .intake (.finished (.error error))
  forestalled : ∀ index id, fleet.Concerns index id → fleet.IsKnown start index id →
    fleet.Forestalled index id

theorem orderly_initial (store : σ) (clock : Nat) : (initial store clock).Orderly store where
  unfailing _ _ _ impossible := nomatch impossible
  forestalled _ _ concerns _ := by
    rcases concerns with ⟨_, _, _, ⟨impossible, -⟩, -⟩
    cases impossible

theorem Orderly.unfailing_step (orderly : fleet.Orderly start) (coherent : fleet.Coherent origin)
    (inTurn : fleet.InTurn move) (steps : fleet.Steps move next) {error : StoreError}
    {member : Member} (found : next.members[index]? = some member) :
    member.job ≠ .intake (.finished (.error error)) := by
  cases steps with
  | passed => exact orderly.unfailing _ _ _ found
  | batchLaunched =>
      rcases getElem?_joined found with rfl | before
      · exact nofun
      · exact orderly.unfailing _ _ _ before
  | @intakeLaunched listener raw =>
      rcases getElem?_joined found with rfl | before
      · dsimp only
        unfold Intake.start
        cases listener.request raw <;> exact nofun
      · exact orderly.unfailing _ _ _ before
  | @acted acting actor after action store deeds there acts =>
      rcases getElem?_replaced there found with ⟨rfl, rfl⟩ | ⟨-, before⟩
      · intro failed
        rcases coherent.receiving_of_after there acts failed with ⟨work, job, receiving⟩
        cases receiving with
        | rested => exact orderly.unfailing _ _ _ there job
        | failed =>
            refine inTurn ?_
            rw [intakes, List.getElem?_map, there, Option.map_some, job]
            rfl
      · exact orderly.unfailing _ _ _ before

omit [LawfulStore σ] in
theorem launched_of_new (staffed : fleet.Staffed) (steps : fleet.Steps move next)
    (concerns : next.Concerns index id) (isNew : ¬ index < fleet.members.length) :
    ∃ listener raw event, move = .launchIntake listener raw ∧ index = fleet.members.length ∧
      listener.request raw = .ok event ∧ event.sourceTxHash = id ∧
      next = (fleet.told listener raw).joined (.intake (Intake.start listener raw)) := by
  rcases concerns with ⟨listener, raw, event, handles, accepted, sameId⟩
  rcases member_of_intakes handles.1 with ⟨member, work, there, isIntake⟩
  have isNotBefore : fleet.members[index]? ≠ some member := fun before =>
    isNew (List.getElem?_eq_some_iff.mp before).1
  cases steps with
  | passed => exact absurd there isNotBefore
  | batchLaunched =>
      rcases getElem?_joined there with rfl | before
      · cases isIntake
      · exact absurd before isNotBefore
  | intakeLaunched =>
      cases last_of_joined there isNotBefore
      rcases (handles_last staffed.one rfl).unique handles with ⟨rfl, rfl⟩
      exact ⟨_, _, event, rfl, rfl, accepted, sameId, rfl⟩
  | acted actorThere acts =>
      rcases getElem?_replaced actorThere there with ⟨rfl, -⟩ | ⟨-, before⟩
      · exact absurd (List.getElem?_eq_some_iff.mp actorThere).1 isNew
      · exact absurd before isNotBefore

theorem Orderly.step (orderly : fleet.Orderly start)
    (coherent : fleet.Coherent (LawfulStore.record? start)) (received : fleet.Received)
    (staffed : fleet.Staffed) (inTurn : fleet.InTurn move) (steps : fleet.Steps move next) :
    next.Orderly start := by
  have grows := grows_of_steps steps
  refine ⟨fun _ _ _ found => orderly.unfailing_step coherent inTurn steps found, ?_⟩
  intro index id concerns known
  -- Only a worker that has just been launched can be told of something known now.
  by_cases inside : index < fleet.members.length
  · have concernsBefore := received.concerns_of_grown grows inside concerns
    have knownBefore : fleet.IsKnown start index id := by
      refine known.imp_right ?_
      rintro ⟨earlier, isEarlier, also⟩
      exact ⟨earlier, isEarlier,
        received.concerns_of_grown grows (Nat.lt_trans isEarlier inside) also⟩
    exact (orderly.forestalled index id concernsBefore knownBefore).step coherent received steps
  · rcases launched_of_new staffed steps concerns inside with
      ⟨listener, raw, event, rfl, rfl, accepted, rfl, rfl⟩
    refine forestalled_joined staffed accepted ?_
    rcases known with stored | ⟨earlier, isEarlier, also⟩
    · rcases Option.isSome_iff_exists.mp stored with ⟨first, stored⟩
      exact coherent.holds_of_known (List.mem_append_left _ (Option.mem_toList.mpr stored))
    · exact received.holds_of_settled coherent (received.concerns_of_grown grows isEarlier also)
        inTurn fun member error => orderly.unfailing earlier member error

theorem Run.orderly (sound : LawfulStore.Sound store)
    (run : Run InTurn (initial store clock) fleet) : fleet.Orderly store := by
  induction run with
  | rest => exact orderly_initial store clock
  | move move run inTurn step orderly =>
      exact orderly.step (run.coherent sound) (run.received sound) run.staffed inTurn
        (steps_of_step? step)

theorem Orderly.isBarren_of_isReplay (orderly : fleet.Orderly start) (received : fleet.Received)
    (replay : fleet.IsReplay start index) {member : Member}
    (there : fleet.members[index]? = some member) : member.job.isBarren = true := by
  rcases member_of_intakes replay.1 with ⟨member', work, also, isIntake⟩
  cases there.symm.trans also
  rcases received.intakes _ _ _ there isIntake with ⟨listener, raw, handles, receives⟩
  cases accepted : listener.request raw with
  | error reason =>
      rw [isIntake, receives.of_error accepted]
      rfl
  | ok event =>
      have concerns : fleet.Concerns index event.sourceTxHash :=
        ⟨listener, raw, event, handles, accepted, rfl⟩
      exact (orderly.forestalled _ _ concerns (replay.2 _ concerns)).barren member there

theorem sameWithout_of_isReplay (sound : LawfulStore.Sound store)
    (inTurn : (initial store clock).follow? InTurn moves = some fleet)
    (areReplays : ∀ index, omitted index = true → fleet.IsReplay store index) :
    fleet.SameWithout store clock moves omitted := by
  have run : Run InTurn (initial store clock) fleet := .of_follow? .rest inTurn
  have barren : fleet.Barren omitted := fun index _ isOmitted there =>
    (run.orderly sound).isBarren_of_isReplay (run.received sound) (areReplays index isOmitted) there
  exact barren.sameWithout sound (follow?_free inTurn)

/-! ## Any run -/

theorem Coherent.lists_once [ListsOnce σ] (coherent : fleet.Coherent origin) (status : Status)
    (chain : Option String) :
    ∃ records, Store.withStatus fleet.store status chain = .ok records ∧
      (records.map (·.id)).Nodup ∧
      ∀ record ∈ records, LawfulStore.record? fleet.store record.id = some record := by
  rcases LawfulStore.withStatus_of_sound status chain coherent.sound with ⟨records, lists, listed⟩
  exact ⟨records, lists, ListsOnce.nodup_of_withStatus coherent.sound lists,
    fun record among => ((listed record).mp among).1⟩

theorem Received.skipped (received : fleet.Received) {reason : String}
    (handles : fleet.Handles index listener raw) (skipped : listener.request raw = .error reason) :
    ∃ member : Member, fleet.members[index]? = some member ∧
      member.job = .intake (.finished (.ok (.skipped reason))) := by
  rcases received.of_handles handles with ⟨member, work, there, isIntake, receives⟩
  exact ⟨member, there, receives.of_error skipped ▸ isIntake⟩

theorem Received.created_by_other (received : fleet.Received) (coherent : fleet.Coherent origin)
    {member : Member} (there : fleet.members[index]? = some member)
    (duplicate : member.job = .intake (.finished (.ok (.duplicate id)))) :
    (origin id).isSome = true ∨ ∃ other, other ≠ index ∧ fleet.Creates other id := by
  rcases received.intakes _ _ _ there duplicate with ⟨listener, raw, -, receives⟩
  rcases Option.isSome_iff_exists.mp receives.tells.2 with ⟨record, stored⟩
  cases vacant : origin id with
  | some first => exact .inl rfl
  | none =>
      rcases authored coherent received vacant stored with ⟨other, -, only⟩
      have creates := (only other).mpr rfl
      refine .inr ⟨other, ?_, creates⟩
      rintro rfl
      rcases creates with ⟨first, wrote, -⟩
      exact receives.barren rfl first wrote

theorem Coherent.store_of_isBarren (coherent : fleet.Coherent origin) {action : Action}
    {member : Member} (step : fleet.step? (.act index action) = some next)
    (found : next.members[index]? = some member) (barren : member.job.isBarren = true) :
    next.store = fleet.store := by
  cases steps_of_step? step with
  | acted there acts =>
      cases found.symm.trans (getElem?_replaced_self there)
      exact (coherent.barren_of_acts there acts barren).2.1

/-- Whatever happens after its launch, the worker for a stored record is too late. -/
theorem Run.replayed {last : Fleet σ} (sound : LawfulStore.Sound store)
    (run : Run Free (initial store clock) fleet) (accepted : listener.request raw = .ok event)
    (holds : fleet.Holds event.sourceTxHash)
    (followed : fleet.follow? Free (.launchIntake listener raw :: moves) = some last) :
    ∃ (member : Member) (work : Intake), last.members[fleet.members.length]? = some member ∧
      member.job = .intake work ∧ work.isBarren = true ∧
      (∀ record, ¬ last.Wrote fleet.members.length record) ∧
      ∀ outcome, work = .finished (.ok outcome) → outcome = .duplicate event.sourceTxHash := by
  rw [follow?_cons] at followed
  have launched := run.move (.launchIntake listener raw) trivial rfl
  have forestalled := (forestalled_joined run.staffed accepted holds).follow? sound launched followed
  exact forestalled.outcome ((launched.of_follow? followed).received sound)

/-- What becomes of the events of a run. -/
structure Idempotent (store : σ) (clock : Nat) (moves : List Move) (fleet : Fleet σ) : Prop where
  /-- No list shows two records with one identifier. -/
  single : ∀ status chain, ∃ records,
    Store.withStatus fleet.store status chain = .ok records ∧ (records.map (·.id)).Nodup ∧
      ∀ record ∈ records, LawfulStore.record? fleet.store record.id = some record
  /-- A new record goes back to the one event of which a record was created. -/
  authored : ∀ id record, LawfulStore.record? store id = none →
    LawfulStore.record? fleet.store id = some record →
      ∃ index, fleet.Authors index record ∧ ∀ other, fleet.Creates other id ↔ other = index
  /-- Where a record has been from the start, none is created. -/
  kept : ∀ id, (LawfulStore.record? store id).isSome = true → ∀ index, ¬ fleet.Creates index id
  accounted : ∀ index listener raw, fleet.Handles index listener raw →
    ∃ (member : Member) (work : Intake), fleet.members[index]? = some member ∧
      member.job = .intake work ∧ fleet.Receives index listener raw work
  skipped : ∀ index listener raw reason, fleet.Handles index listener raw →
    listener.request raw = .error reason → ∃ member : Member,
      fleet.members[index]? = some member ∧
        member.job = .intake (.finished (.ok (.skipped reason)))
  duplicate : ∀ (index : Nat) (member : Member) id, fleet.members[index]? = some member →
    member.job = .intake (.finished (.ok (.duplicate id))) →
      (LawfulStore.record? store id).isSome = true ∨ ∃ other, other ≠ index ∧ fleet.Creates other id
  /-- A worker that has created no record has not touched the store. -/
  quiet : ∀ index action next (member : Member), fleet.step? (.act index action) = some next →
    next.members[index]? = some member → member.job.isBarren = true → next.store = fleet.store
  /-- Whatever the others do, an event whose record is stored can only be a duplicate. -/
  replayed : ∀ listener raw event later last, listener.request raw = .ok event →
    fleet.Holds event.sourceTxHash →
    fleet.follow? Free (.launchIntake listener raw :: later) = some last →
      ∃ (member : Member) (work : Intake), last.members[fleet.members.length]? = some member ∧
        member.job = .intake work ∧ work.isBarren = true ∧
        (∀ record, ¬ last.Wrote fleet.members.length record) ∧
        ∀ outcome, work = .finished (.ok outcome) → outcome = .duplicate event.sourceTxHash
  /-- An event that comes now is answered by whether its record is stored. -/
  delivered : fleet.seconds < Width.bound64 → ∀ listener raw, ∃ steps last,
    fleet.follow? Free (.launchIntake listener raw ::
      List.replicate steps (.act fleet.members.length .proceed)) = some last ∧
    fleet.Delivers listener raw last
  /-- Workers that have created no record can be left out. -/
  omission : ∀ omitted, fleet.Barren omitted → fleet.SameWithout store clock moves omitted
  /-- Where events come in turn, all replays can be left out. -/
  replays : (initial store clock).follow? InTurn moves = some fleet →
    ∀ omitted, (∀ index, omitted index = true → fleet.IsReplay store index) →
      fleet.SameWithout store clock moves omitted

/-- However often events come, whatever else happens and whichever writes fail. -/
theorem intake_idempotent [ListsOnce σ] (sound : LawfulStore.Sound store)
    (followed : (initial store clock).follow? Free moves = some fleet) :
    fleet.Idempotent store clock moves := by
  have run : Run Free (initial store clock) fleet := .of_follow? .rest followed
  have coherent := run.coherent sound
  have received := run.received sound
  exact
    { single := fun status chain => coherent.lists_once status chain
      authored := fun id record vacant stored => Fleet.authored coherent received vacant stored
      kept := fun id stored index => coherent.not_creates_of_origin stored
      accounted := fun index listener raw handles => received.of_handles handles
      skipped := fun index listener raw reason handles skipped => received.skipped handles skipped
      duplicate := fun index member id there duplicate =>
        received.created_by_other coherent there duplicate
      quiet := fun index action next member step found barren =>
        coherent.store_of_isBarren step found barren
      replayed := fun listener raw event later last accepted holds followed =>
        run.replayed sound accepted holds followed
      delivered := fun fits => Fleet.delivered coherent.sound fits
      omission := fun omitted barren => barren.sameWithout sound followed
      replays := fun inTurn omitted areReplays => sameWithout_of_isReplay sound inTurn areReplays }

/-- An event fails, comes again and is stored. A batch claims the record, and the
event comes once more, with its hash in other letters and another amount. Where
it has not failed, the run is the same without its return. -/
theorem intake_idempotent_of_respelled_event :
    let again := Calm.Sample.event "0XA1" "7"
    let failure : List Move := [.launchIntake Sample.listener Sample.event, .act 0 .proceed,
      .act 0 .proceed, .act 0 (.fail (.database "locked"))]
    let course (first : Nat) : List Move :=
      .launchIntake Sample.listener Sample.event :: List.replicate 4 (.act first .proceed) ++
        .launchBatch .attestation {} none :: Sample.claim (first + 1) ++
        .launchIntake Sample.listener again :: List.replicate 3 (.act (first + 2) .proceed)
    (∃ fleet : Fleet MemoryStore, fleet.Idempotent {} 0 (failure ++ course 1) ∧
      (LawfulStore.record? fleet.store "0xa1").map (fun record =>
        (record.version, record.event.amount)) = some (1, 5)) ∧
    ∃ fleet : Fleet MemoryStore, fleet.IsReplay {} 2 ∧ fleet.creations = 1 ∧
      fleet.SameWithout {} 0 (course 0) (· == 2) := by
  intro again failure course
  have troubled : ((initial ({} : MemoryStore) 0).follow? Free (failure ++ course 1)).map
      (fun fleet => (LawfulStore.record? fleet.store "0xa1").map fun record =>
        (record.version, record.event.amount)) = some (some (1, 5)) := by
    decide +kernel
  have calm : ((initial ({} : MemoryStore) 0).follow? InTurn (course 0)).map
      (fun fleet => (fleet.intakes, fleet.identifier? 0, fleet.identifier? 2, fleet.creations)) =
        some ([true, false, true], some "0xa1", some "0xa1", 1) := by
    decide +kernel
  rcases Option.map_eq_some_iff.mp troubled with ⟨fleet, followed, stored⟩
  refine ⟨⟨fleet, intake_idempotent trivial followed, stored⟩, ?_⟩
  rcases Option.map_eq_some_iff.mp calm with ⟨fleet, inTurn, same⟩
  simp only [Prod.mk.injEq] at same
  rcases same with ⟨intakes, first, second, creations⟩
  have replay : fleet.IsReplay {} 2 := by
    refine ⟨by rw [intakes]; rfl, fun id concerns => ?_⟩
    cases second.symm.trans (concerns_iff.mp concerns)
    exact .inr ⟨0, by decide, concerns_iff.mpr first⟩
  refine ⟨fleet, replay, creations, ?_⟩
  refine (intake_idempotent trivial (follow?_free inTurn)).replays inTurn _ ?_
  intro index isOmitted
  exact beq_iff_eq.mp isOmitted ▸ replay

end Fleet

end RedemptionRelay
