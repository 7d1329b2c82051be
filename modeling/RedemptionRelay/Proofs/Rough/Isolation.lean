import RedemptionRelay.Proofs.Fleet.Integrity
import RedemptionRelay.Proofs.Fleet.Widths
import RedemptionRelay.Proofs.Rough.Attendance
import RedemptionRelay.Proofs.Store.Listing

/-! # What goes wrong with one record

A batch fails only where it cannot read, and then it has done nothing. Otherwise
it counts all records that it has read, and whatever happens to one of them, the
others fare as they would have fared without it.
-/

namespace RedemptionRelay

variable {σ : Type} [Store σ] [LawfulStore σ]

namespace Fleet

theorem Reachable.ready {store : σ} {record : Redemption} {writes : Nat}
    (reachable : Reachable store)
    (found : LawfulStore.record? store record.id = some record)
    (room : record.version + writes < Width.bound64) : record.Ready writes := by
  rcases reachable with ⟨first, clock, fleet, sound, vacant, run, rfl⟩
  have stored := run.stored sound vacant found
  have known := (run.coherent sound).known_of_current found
  rw [trail, vacant] at known
  rcases (run.documented sound vacant).created record.id record known with
    ⟨_, _, _, _, _, _, _, _, named, -⟩
  exact ⟨stored.1, stored.2, room, named⟩

theorem Reachable.handles {store : σ} {phase : Phase} {record : Redemption}
    (reachable : Reachable store)
    (found : LawfulStore.record? store record.id = some record) (reads : phase.Reads record)
    (room : record.version + 2 < Width.bound64) : phase.Handles record :=
  (reachable.ready found room).handles reads

end Fleet

theorem Summary.total_count (summary : Summary) (outcome : Outcome) :
    (summary.count outcome).total = summary.total + 1 := by
  cases outcome <;> dsimp only [count, total] <;> omega

namespace Rough

variable {weather left right : Weather} {world : Rough σ} {policy : RetryPolicy} {phase : Phase}
  {chain : Option String} {record : Redemption} {queue : List Redemption} {summary : Summary}
  {id : String}

/-- A lease that were taken now would end in time. -/
def InTime (policy : RetryPolicy) (phase : Phase) (world : Rough σ) : Prop :=
  world.seconds + policy.holdSeconds (policy.timeout phase) ≤ Redemption.maxTime

omit [Store σ] [LawfulStore σ] in
theorem InTime.earlier {before after : Rough σ} (inTime : InTime policy phase after)
    (passes : before.clock ≤ after.clock) : InTime policy phase before :=
  Nat.le_trans (Nat.add_le_add_right (seconds_le passes) _) inTime

omit [Store σ] [LawfulStore σ] in
theorem InTime.lt_bound64 (inTime : InTime policy phase world) : world.seconds < Width.bound64 :=
  Redemption.lt_bound64_of_le_maxTime (Nat.le_of_add_right_le inTime)

omit [LawfulStore σ] in
theorem le_attendAll :
    world.clock ≤ (Batch.attendAll (answer weather) phase policy summary queue world).2.clock := by
  induction queue generalizing world summary with
  | nil => exact Nat.le_refl _
  | cons record queue induction =>
      have attended : (world.elapse weather .readClock).clock ≤
          (Batch.attend (answer weather) phase policy record world).2.clock := passes_attend
      unfold Batch.attendAll
      revert attended
      rcases Batch.attend (answer weather) phase policy record world with ⟨_ | outcome, after⟩
      · exact Nat.le_trans (Weather.le_answered ..)
      · exact fun attended => Nat.le_trans (Nat.le_trans (Weather.le_answered ..) attended) induction

/-! ## One record after the other -/

/-- These records are in the store, and wait to be dealt with. -/
structure Queued (phase : Phase) (queue : List Redemption) (world : Rough σ) : Prop where
  sound : LawfulStore.Sound world.store
  distinct : (queue.map (·.id)).Nodup
  current : ∀ record ∈ queue, LawfulStore.record? world.store record.id = some record
  handles : ∀ record ∈ queue, phase.Handles record

theorem Befalls.queued {result : Option Outcome × Rough σ} {fate : Fate}
    (befalls : Befalls world result record.id fate)
    (queued : Queued phase (record :: queue) world) : Queued phase queue result.2 where
  sound := befalls.sound
  distinct := (List.nodup_cons.mp queued.distinct).2
  current other among := by
    have different : other.id ≠ record.id := fun same =>
      (List.nodup_cons.mp queued.distinct).1 (List.mem_map.mpr ⟨other, among, same⟩)
    rw [befalls.records, if_neg different]
    exact queued.current other (List.mem_cons_of_mem _ among)
  handles other among := queued.handles other (List.mem_cons_of_mem _ among)

theorem attendAll_first (queued : Queued phase (record :: queue) world)
    (canCount : policy.CanCount record)
    (inTime : (Batch.attendAll (answer weather) phase policy summary (record :: queue)
      world).2.seconds < Width.bound64) :
    ∃ ended after, Batch.attend (answer weather) phase policy record world = (ended, after) ∧
      Befalls world (ended, after) record.id (weather.fate phase policy record world.clock) ∧
      Queued phase queue after := by
  rcases attended : Batch.attend (answer weather) phase policy record world with ⟨ended, after⟩
  have inTimeHere : after.seconds < Width.bound64 := by
    rw [Batch.attendAll, attended] at inTime
    cases ended with
    | none => exact inTime
    | some outcome => exact Nat.lt_of_le_of_lt (seconds_le le_attendAll) inTime
  have befalls : Befalls world (ended, after) record.id
      (weather.fate phase policy record world.clock) := by
    rw [← attended]
    refine befalls_attend queued.sound (queued.current record List.mem_cons_self)
      (queued.handles record List.mem_cons_self) canCount ?_
    rw [attended]
    exact inTimeHere
  exact ⟨ended, after, rfl, befalls, befalls.queued queued⟩

theorem Befalls.late {after : Rough σ}
    (befalls : Befalls world (none, after) record.id
      (weather.fate phase policy record world.clock))
    (attended : Batch.attend (answer weather) phase policy record world = (none, after)) :
    ¬ InTime policy phase after := by
  intro inTime
  have passes : (world.elapse weather .readClock).clock ≤
      (Batch.attend (answer weather) phase policy record world).2.clock := passes_attend
  rw [attended] at passes
  have goesOn : (weather.fate phase policy record world.clock).outcome.isSome :=
    Weather.isSome_outcome_of_fate (inTime.earlier passes)
  rw [← befalls.outcome] at goesOn
  cases goesOn

theorem attendAll_cons (queued : Queued phase (record :: queue) world)
    (retriesFit : policy.maxRetries + 1 < Width.bound32)
    (inTime : InTime policy phase
      (Batch.attendAll (answer weather) phase policy summary (record :: queue) world).2) :
    ∃ outcome after, Batch.attend (answer weather) phase policy record world =
        (some outcome, after) ∧
      Befalls world (some outcome, after) record.id
        (weather.fate phase policy record world.clock) ∧
      Queued phase queue after ∧
      Batch.attendAll (answer weather) phase policy summary (record :: queue) world =
        Batch.attendAll (answer weather) phase policy (summary.count outcome) queue after := by
  rcases attendAll_first queued (RetryPolicy.canCount retriesFit) inTime.lt_bound64 with
    ⟨ended, after, attended, befalls, behind⟩
  cases ended with
  | none =>
      rw [Batch.attendAll, attended] at inTime
      exact absurd inTime (befalls.late attended)
  | some outcome =>
      exact ⟨outcome, after, attended, befalls, behind, by rw [Batch.attendAll, attended]⟩

def takenUp (weather : Weather) (phase : Phase) (policy : RetryPolicy) :
    List Redemption → Rough σ → List Nat
  | [], _ => []
  | record :: queue, world =>
      world.clock ::
        takenUp weather phase policy queue
          (Batch.attend (answer weather) phase policy record world).2

/-- The two hold the same records but one, and the same has been done about the
others. -/
def AlikeBut (left : Rough σ) (id : String) (right : Rough σ) : Prop :=
  ∀ other, other ≠ id →
    LawfulStore.record? left.store other = LawfulStore.record? right.store other ∧
      left.about other = right.about other

theorem Befalls.about {outcome : Option Outcome} {after : Rough σ} {fate : Fate}
    (befalls : Befalls world (outcome, after) id fate)
    (subjects : ∀ deed ∈ fate.deeds, deed.subject = id) (other : String) :
    after.about other = world.about other ++ if other = id then fate.deeds else [] := by
  have done : after.deeds = world.deeds ++ fate.deeds := befalls.deeds
  unfold Rough.about
  rw [done, List.filter_append]
  congr 1
  split
  · next same =>
      refine List.filter_eq_self.mpr fun deed among => ?_
      exact decide_eq_true ((subjects deed among).trans same.symm)
  · next different =>
      refine List.filter_eq_nil_iff.mpr fun deed among => ?_
      rw [subjects deed among, decide_eq_true_eq]
      exact fun same => different same.symm

theorem AlikeBut.attended {leftWorld rightWorld leftAfter rightAfter : Rough σ}
    {leftOutcome rightOutcome : Option Outcome} (alike : AlikeBut leftWorld id rightWorld)
    (agree : left.AgreesBut id right) (named : record.event.sourceTxHash = record.id)
    (sameClock : leftWorld.clock = rightWorld.clock)
    (leftBefalls : Befalls leftWorld (leftOutcome, leftAfter) record.id
      (left.fate phase policy record leftWorld.clock))
    (rightBefalls : Befalls rightWorld (rightOutcome, rightAfter) record.id
      (right.fate phase policy record rightWorld.clock)) :
    AlikeBut leftAfter id rightAfter := by
  intro other isOther
  have sameFate (here : other = record.id) : left.fate phase policy record leftWorld.clock =
      right.fate phase policy record rightWorld.clock := by
    rw [sameClock]
    exact agree.fate named (here ▸ isOther)
  have leftRecords := leftBefalls.records other
  have rightRecords := rightBefalls.records other
  dsimp only at leftRecords rightRecords
  rw [leftRecords, rightRecords,
    leftBefalls.about fun _ => Weather.subject_of_fate named,
    rightBefalls.about fun _ => Weather.subject_of_fate named]
  rcases alike other isOther with ⟨sameRecord, sameDeeds⟩
  split
  · next here => rw [sameFate here, sameDeeds]; exact ⟨rfl, rfl⟩
  · exact ⟨sameRecord, by rw [sameDeeds]⟩

/-- Records that are taken up at the same moments fare alike. -/
theorem AlikeBut.attendAll {leftWorld rightWorld : Rough σ} {leftSummary rightSummary : Summary}
    (alike : AlikeBut leftWorld id rightWorld) (agree : left.AgreesBut id right)
    (retriesFit : policy.maxRetries + 1 < Width.bound32)
    (leftQueued : Queued phase queue leftWorld) (rightQueued : Queued phase queue rightWorld)
    (leftInTime : InTime policy phase
      (Batch.attendAll (answer left) phase policy leftSummary queue leftWorld).2)
    (rightInTime : InTime policy phase
      (Batch.attendAll (answer right) phase policy rightSummary queue rightWorld).2)
    (sameMoments :
      takenUp left phase policy queue leftWorld = takenUp right phase policy queue rightWorld) :
    AlikeBut (Batch.attendAll (answer left) phase policy leftSummary queue leftWorld).2 id
      (Batch.attendAll (answer right) phase policy rightSummary queue rightWorld).2 := by
  induction queue generalizing leftWorld rightWorld leftSummary rightSummary with
  | nil => exact alike
  | cons record queue induction =>
      rcases attendAll_cons leftQueued retriesFit leftInTime with
        ⟨leftOutcome, leftAfter, leftAttended, leftBefalls, leftBehind, leftContinues⟩
      rcases attendAll_cons rightQueued retriesFit rightInTime with
        ⟨rightOutcome, rightAfter, rightAttended, rightBefalls, rightBehind, rightContinues⟩
      unfold takenUp at sameMoments
      rw [leftAttended, rightAttended] at sameMoments
      rcases List.cons.inj sameMoments with ⟨sameClock, sameBehind⟩
      rw [leftContinues] at leftInTime ⊢
      rw [rightContinues] at rightInTime ⊢
      have named := (leftQueued.handles record List.mem_cons_self).named
      exact induction (alike.attended agree named sameClock leftBefalls rightBefalls) leftBehind
        rightBehind leftInTime rightInTime sameBehind

/-! ## From the reads on -/

def loaded (world : Rough σ) (weather : Weather) (phase : Phase) (chain : Option String) :
    Rough σ :=
  (world.elapse weather (.listRecords phase.waiting chain)).elapse weather
    (.listRecords phase.retrying chain)

theorem run_of_unreadable (policy : RetryPolicy) {error : StoreError}
    (sound : LawfulStore.Sound world.store)
    (fails : weather.readFault? phase chain world.clock = some error) :
    ∃ after, Activity.run (answer weather) world (Batch.start phase policy chain) =
        (.unreadable error, after) ∧
      after.store = world.store ∧ after.deeds = world.deeds := by
  rcases Phase.reading_of_sound sound phase chain with ⟨waiting, retrying, listsWaiting, -, -⟩
  rw [Batch.run_start, answer_listRecords]
  unfold Weather.readFault? at fails
  dsimp only at fails
  cases first : weather.fault? world.clock (.listRecords phase.waiting chain) with
  | some error' =>
      rw [first] at fails
      cases fails
      exact ⟨_, rfl, rfl, rfl⟩
  | none =>
      rw [first, Option.none_or] at fails
      dsimp only
      rw [listsWaiting]
      dsimp only
      rw [answer_listRecords]
      dsimp only [elapse]
      rw [fails]
      exact ⟨_, rfl, rfl, rfl⟩

theorem run_of_readable (sound : LawfulStore.Sound world.store)
    (works : weather.readFault? phase chain world.clock = none) :
    Activity.run (answer weather) world (Batch.start phase policy chain) =
      Batch.attendAll (answer weather) phase policy {} (phase.reading chain world.store)
        (world.loaded weather phase chain) := by
  rcases Phase.reading_of_sound sound phase chain with
    ⟨waiting, retrying, listsWaiting, listsRetrying, reading⟩
  rcases Option.or_eq_none_iff.mp works with ⟨first, second⟩
  rw [Batch.run_start, answer_listRecords, first]
  dsimp only
  rw [listsWaiting]
  dsimp only
  rw [answer_listRecords]
  dsimp only [elapse]
  rw [second]
  dsimp only
  rw [listsRetrying, reading]
  rfl

theorem queued_loaded [ListsOnce σ] (sound : LawfulStore.Sound world.store)
    (handles : ∀ record ∈ phase.reading chain world.store, phase.Handles record) :
    Queued phase (phase.reading chain world.store) (world.loaded weather phase chain) where
  sound := sound
  distinct := Phase.nodup_reading sound
  current _ among := ((Phase.mem_reading sound).mp among).1
  handles := handles

end Rough

/-! ## Two requests -/

namespace Rough.Sample

def event (hash : String) : Event :=
  ⟨"0x00112233445566778899aabbccddeeff00112233",
    ⟨"0x00112233445566778899aabbccddeeff00112233445566778899aabbccddeeff", 1, 2⟩, "0x76", 5, hash⟩

def first : Redemption :=
  Redemption.observed "sepolia" (event "0xa1") 0 0

def second : Redemption :=
  Redemption.observed "sepolia" (event "0xa2") 1 1

def secondRaw : RawEvent :=
  match Fleet.Sample.event.payload with
  | .object (_ :: members) =>
      { Fleet.Sample.event with payload := .object (("transactionHash", .text "0xa2") :: members) }
  | _ => Fleet.Sample.event

def world : Rough MemoryStore where
  store := { records := [first, second], distinct := by decide }
  clock := Duration.nanosecondsPerSecond

theorem reading_world : Phase.attestation.reading none world.store = [first, second] := by
  have waiting : world.store.withStatus .pending none = [first, second] := by
    have unsorted : (world.store.matching none).filter (·.status = .pending) = [first, second] := by
      decide +kernel
    unfold MemoryStore.withStatus
    rw [unsorted]
    exact List.mergeSort_of_pairwise (by decide +kernel)
  have retrying : world.store.withStatus .fetchFailed none = [] := by
    have nothing : (world.store.matching none).filter (·.status = .fetchFailed) = [] := by
      decide +kernel
    unfold MemoryStore.withStatus
    rw [nothing, List.mergeSort_nil]
  show world.store.withStatus .pending none ++ world.store.withStatus .fetchFailed none = _
  rw [waiting, retrying, List.append_nil]

theorem reachable_world : Fleet.Reachable world.store :=
  Fleet.reachable_of_moves
    (Fleet.Sample.arrival ++ .pass Duration.nanosecondsPerSecond ::
      .launchIntake Fleet.Sample.listener secondRaw :: List.replicate 3 (.act 1 .proceed))
    (by decide +kernel)

def fair : Weather where
  duration
    | _, .announce _ => 0
    | _, _ => Duration.nanosecondsPerSecond
  fault? _ _ := none
  reply
    | _, .fetch _ => some (.ok (.available [1]))
    | _, .submit _ _ => none

/-- The write of the first request over this version is lost. -/
def lost (expected _ : Nat) : Request → Option StoreError
  | .update record version =>
      if record.id = "0xa1" ∧ version = expected then some (.connection "reset") else none
  | _ => none

/-- There is no answer about the first request, and the commit fails. -/
def foul : Weather where
  duration := fair.duration
  fault? := lost 1
  reply moment call := if call.subject = "0xa1" then none else fair.reply moment call

end Rough.Sample

namespace Rough

end Rough

end RedemptionRelay
