import RedemptionRelay.Proofs.Fleet.Consistency
import RedemptionRelay.Proofs.Fleet.Protection
import RedemptionRelay.Proofs.Redemption.Chronology
import RedemptionRelay.Proofs.Redemption.Traces

/-! # The order of time in a store

A worker notes the time of a change on its own copy of a record and writes the
copy later, when the clock has gone on and others have written too. But its copy
goes back to a state that was there before, and the store takes the write only
where that state is still there. So the dates on a record follow the order in
which its states were stored.
-/

namespace RedemptionRelay

def Request.OnTime (clock : Nat) : (request : Request) → request.Answer → Prop
  | .readClock => fun now => now = clock
  | _ => fun _ => True

/-- A change of a known state that was noted after it. -/
structure Redemption.Drafted (known : Redemption → Prop) (clock : Nat) (next : Redemption) :
    Prop where
  timely : next.Timely clock
  base : ∃ base, known base ∧ base.edition = next.edition ∧
    base.dates.lastActivityAt ≤ next.dates.lastActivityAt

namespace Redemption

variable {known wider : Redemption → Prop} {clock later now : Nat} {record next : Redemption}
  {mark : Mark}

theorem Drafted.mono (drafted : next.Drafted known clock)
    (widens : ∀ {record}, known record → wider record) (inTime : clock ≤ later) :
    next.Drafted wider later where
  timely := drafted.timely.mono inTime
  base := drafted.base.imp fun _ found => ⟨widens found.1, found.2⟩

theorem drafted_of_apply (isKnown : known record) (timely : record.Timely now)
    (inTime : now ≤ clock) (consistent : record.Consistent)
    (alive : record.status.isTerminal = false)
    (changed : record.apply mark now clock = .ok next) : next.Drafted known clock where
  timely := timely.of_apply inTime consistent alive changed
  base := by
    refine ⟨record, isKnown, (edition_of_apply changed).symm, ?_⟩
    rw [(traces_of_apply changed).lastActivityAt]
    exact timely.active

end Redemption

/-! ## Work in hand -/

/-- The times that a stage has read are over, and no state that it goes back to
comes after them. -/
def Stage.Dated (known : Redemption → Prop) (clock : Nat) : Stage → Prop
  | .leasing claimed _ _ => claimed.Drafted known clock
  | .logging record _ now _ _ => record.Timely now ∧ now ≤ clock
  | .committing next _ _ => next.Drafted known clock
  | _ => True

def Intake.Dated (clock : Nat) : Intake → Prop
  | .logging _ _ now => now ≤ clock
  | .creating record => record.Timely clock
  | _ => True

def Job.Dated (known : Redemption → Prop) (clock : Nat) : Job → Prop
  | .batch work => work.stage.Dated known clock
  | .intake work => work.Dated clock

def Outlook.Past (outlook : Outlook) (clock : Nat) : Prop :=
  ∀ record, outlook.known record → record.Timely clock ∧ record.Consistent

section Dated

variable {known wider : Redemption → Prop} {clock later : Nat} {outlook : Outlook}
  {request : Request} {answer : request.Answer}

theorem Stage.dated_of_free {stage : Stage} (free : stage.isBusy = false) :
    stage.Dated known clock := by
  cases stage <;> trivial

theorem Job.Dated.mono {job : Job} (dated : job.Dated known clock)
    (widens : ∀ {record}, known record → wider record) (inTime : clock ≤ later) :
    job.Dated wider later := by
  rcases job with ⟨phase, policy, chain, summary, stage⟩ | intake
  · cases stage with
    | leasing | committing => exact Redemption.Drafted.mono dated widens inTime
    | logging => exact dated.imp_right fun before => Nat.le_trans before inTime
    | loading | admitting | claiming | calling | marking | announcing | finished => trivial
  · cases intake with
    | logging => exact Nat.le_trans dated inTime
    | creating => exact Redemption.Timely.mono dated inTime
    | stamping | announcing | finished => trivial

theorem Batch.dated_resume {batch next : Batch} (dated : batch.stage.Dated outlook.known clock)
    (traced : batch.Traced outlook) (past : outlook.Past clock)
    (answered : batch.Answered request answer next) (onTime : request.OnTime clock answer) :
    next.stage.Dated outlook.known clock := by
  unfold Traced at traced
  rcases rests_or_works answered with rests | ⟨stage, works, rfl⟩
  · exact Stage.dated_of_free rests.free
  · cases works with
    | abandoned | admitted | leased | replied => trivial
    | @claimed record leaseUntil now attempt queue stage =>
        cases onTime
        rw [stage] at traced
        have found := traced.1.found
        have claims : record.apply (.claim leaseUntil) clock clock =
            .ok (record.claim leaseUntil clock) := rfl
        rcases past record found.known with ⟨timely, consistent⟩
        exact Redemption.drafted_of_apply found.known timely (Nat.le_refl clock) consistent
          found.alive claims
    | marked stage =>
        cases onTime
        rw [stage] at traced
        exact ⟨(past _ traced.1.found.known).1, Nat.le_refl clock⟩
    | logged stage changed =>
        cases onTime
        rw [stage] at traced dated
        have found := traced.1.found
        exact Redemption.drafted_of_apply found.known dated.1 dated.2 (past _ found.known).2
          found.alive changed

theorem Intake.dated_resume {intake next : Intake} (dated : intake.Dated clock)
    (answered : intake.Answered request answer next) (onTime : request.OnTime clock answer) :
    next.Dated clock := by
  cases answered with
  | stamped => exact Nat.le_of_eq onTime
  | @logged chain event =>
      cases onTime
      exact Redemption.timely_observed chain event dated
  | created | duplicate | uncreated | announced => trivial

namespace Job

variable {job next : Job}

theorem Dated.resume (dated : job.Dated outlook.known clock) (traced : job.Traced outlook)
    (past : outlook.Past clock) (answered : job.Answered request answer next)
    (onTime : request.OnTime clock answer) : next.Dated outlook.known clock := by
  cases answered with
  | batch answered => exact Batch.dated_resume dated traced past answered onTime
  | intake answered => exact Intake.dated_resume dated answered onTime

theorem Dated.create {record : Redemption} {answer : (Request.create record).Answer}
    (dated : job.Dated known clock) (answered : job.Answered (.create record) answer next) :
    record.Timely clock := by
  cases answered with
  | batch answered => cases answered
  | intake answered => cases answered <;> exact dated

theorem Dated.update {record : Redemption} {expected : Nat}
    {answer : (Request.update record expected).Answer} (dated : job.Dated known clock)
    (answered : job.Answered (.update record expected) answer next) :
    record.Drafted known clock ∧ expected = record.version := by
  cases answered with
  | intake answered => cases answered
  | @batch work _ _ _ answered =>
      change work.stage.Dated known clock at dated
      cases answered with
      | leased stage | unleased stage | committed stage | uncommitted stage =>
          rw [stage] at dated
          exact ⟨dated, rfl⟩

end Job

end Dated

/-! ## The invariant -/

namespace Fleet

variable {σ : Type} [Store σ] [LawfulStore σ] {origin : String → Option Redemption}
  {fleet next : Fleet σ} {index : Nat} {member after : Member} {store : σ} {deeds : List Deed}
  {record : Redemption} {id : String}

structure Chronicled (origin : String → Option Redemption) (fleet : Fleet σ) : Prop where
  past : ∀ id, ∀ record ∈ fleet.trail origin id, record.Timely fleet.seconds
  rising : ∀ id, (fleet.trail origin id).IsChain fun earlier later =>
    earlier.dates.lastActivityAt ≤ later.dates.lastActivityAt
  dated : ∀ (index : Nat) (member : Member), fleet.members[index]? = some member →
    member.job.Dated (fun record => record ∈ fleet.trail origin record.id) fleet.seconds

omit [LawfulStore σ] in
theorem onTime_of_answer? {request : Request} {answer : request.Answer}
    (serves : fleet.answer? request = some (answer, store, deeds)) :
    request.OnTime fleet.seconds answer := by
  cases request with
  | readClock =>
      cases serves
      rfl
  | listRecords | create | update | perform | announce => trivial

omit [Store σ] [LawfulStore σ] in
theorem onTime_of_failure? {request : Request} {answer : request.Answer} {error : StoreError}
    (clock : Nat) (fails : request.failure? error = some (answer, deeds)) :
    request.OnTime clock answer := by
  cases request <;> cases fails <;> trivial

namespace Chronicled

variable (chronicled : fleet.Chronicled origin) (coherent : fleet.Coherent origin)
  (consistent : ∀ id record, origin id = some record → record.Consistent)

include chronicled coherent in
theorem written {action : Action} (there : fleet.members[index]? = some member)
    (acts : fleet.Acts member action after store deeds) (done : .stored record ∈ deeds) :
    record.Timely fleet.seconds ∧ ∀ last ∈ LawfulStore.record? fleet.store record.id,
      last.dates.lastActivityAt ≤ record.dates.lastActivityAt := by
  cases acts with
  | proceeded _ answered fits serves =>
      have dated := chronicled.dated index member there
      cases coherent.served_of_answer? there answered fits serves with
      | created begun vacant =>
          cases List.mem_singleton.mp done
          refine ⟨dated.create answered, ?_⟩
          rw [vacant]
          exact fun _ impossible => nomatch impossible
      | @updated base next expected store isBase precedes current =>
          cases List.mem_singleton.mp done
          rcases dated.update answered with ⟨⟨timely, other, known, sameEdition, ordered⟩, rfl⟩
          have sameId : next.id = base.id := precedes.id
          have isOther : other = base := by
            refine coherent.same_of_edition known (coherent.known_of_current current) ?_
            rw [sameEdition]
            exact Prod.ext sameId isBase.symm
          refine ⟨timely.withVersion _, ?_⟩
          rw [show LawfulStore.record? fleet.store next.id = some base from sameId ▸ current]
          rintro _ ⟨⟩
          exact isOther ▸ ordered
      | listed | stamped | taken | stale | announced => simp at done
  | failed _ _ fails => exact absurd done (quiet_of_failure? fails record)
  | called | heard | unheard | halted => simp at done

include chronicled coherent consistent in
theorem dated_acted {action : Action} (there : fleet.members[index]? = some member)
    (acts : fleet.Acts member action after store deeds) :
    after.job.Dated (fun record => record ∈ fleet.trail origin record.id) fleet.seconds := by
  have dated := chronicled.dated index member there
  have traced := coherent.traced index member there
  have past : (fleet.outlook origin index member).Past fleet.seconds := fun record known =>
    ⟨chronicled.past record.id record known, coherent.consistent_of_known consistent known⟩
  cases acts with
  | proceeded _ answered fits serves =>
      rw [Member.job_goOn]
      exact Job.Dated.resume dated traced past answered (onTime_of_answer? serves)
  | failed _ answered fails =>
      exact Job.Dated.resume dated traced past answered (onTime_of_failure? _ fails)
  | heard _ _ _ answered => exact Job.Dated.resume dated traced past answered trivial
  | called | unheard | halted => exact dated

include chronicled coherent consistent in
theorem replaced {action : Action} (there : fleet.members[index]? = some member)
    (acts : fleet.Acts member action after store deeds) :
    (fleet.replaced index after store deeds).Chronicled origin := by
  have written {record : Redemption} (done : .stored record ∈ deeds) :=
    chronicled.written coherent there acts done
  have dated : ∀ (other : Nat) (member' : Member),
      (fleet.replaced index after store deeds).members[other]? = some member' →
        member'.job.Dated
          (fun record => record ∈ (fleet.replaced index after store deeds).trail origin record.id)
          fleet.seconds := by
    intro other member' found
    rcases getElem?_replaced there found with ⟨rfl, rfl⟩ | ⟨-, before⟩
    · exact (chronicled.dated_acted coherent consistent there acts).mono mem_trail_replaced
        (Nat.le_refl _)
    · exact (chronicled.dated other member' before).mono mem_trail_replaced (Nat.le_refl _)
  -- Either the trails stay as they are, or one of them grows by the state that is written.
  have grows : (∀ id, (fleet.replaced index after store deeds).trail origin id =
        fleet.trail origin id) ∨
      ∃ record, deeds = [.stored record] := by
    cases coherent.writes_of_acts there acts with
    | nothing quiet => exact .inl fun id => trail_replaced_quiet quiet
    | begun | changed => exact .inr ⟨_, rfl⟩
  rcases grows with same | ⟨record, rfl⟩
  · exact ⟨fun id => same id ▸ chronicled.past id, fun id => same id ▸ chronicled.rising id, dated⟩
  · rcases written (List.mem_singleton_self _) with ⟨timely, follows⟩
    refine ⟨fun id => ?_, fun id => ?_, dated⟩ <;> rw [trail_replaced_stored] <;> split
    · exact List.forall_mem_append.mpr ⟨chronicled.past id, List.forall_mem_singleton.mpr timely⟩
    · exact chronicled.past id
    · next same =>
        refine (chronicled.rising id).append (List.isChain_singleton _) ?_
        rintro last lastThere _ ⟨⟩
        rw [← coherent.current, ← same] at lastThere
        exact follows last lastThere
    · exact chronicled.rising id

include chronicled coherent consistent in
theorem step {move : Move} (steps : fleet.Steps move next) : next.Chronicled origin := by
  cases steps with
  | @passed nanoseconds inTime =>
      have elapses : fleet.seconds ≤ (fleet.clock + nanoseconds) / Duration.nanosecondsPerSecond :=
        seconds_mono (Nat.le_add_right fleet.clock nanoseconds)
      exact
        { past := fun id record known => (chronicled.past id record known).mono elapses
          rising := chronicled.rising
          dated := fun index member there => (chronicled.dated index member there).mono id elapses }
  | batchLaunched =>
      refine { chronicled with dated := fun index member found => ?_ }
      rcases getElem?_joined found with rfl | before
      · trivial
      · exact chronicled.dated index member before
  | @intakeLaunched listener raw =>
      refine { chronicled with dated := fun index member found => ?_ }
      rcases getElem?_joined found with rfl | before
      · show (Intake.start listener raw).Dated _
        unfold Intake.start
        split <;> trivial
      · exact chronicled.dated index member before
  | acted there acts => exact chronicled.replaced coherent consistent there acts

end Chronicled

theorem Run.chronicled {allowed : Fleet σ → Move → Prop} {clock : Nat}
    (sound : LawfulStore.Sound store) (vacant : ∀ id, LawfulStore.record? store id = none)
    (run : Run allowed (initial store clock) fleet) :
    fleet.Chronicled (LawfulStore.record? store) := by
  have noTrail (id : String) :
      (initial store clock).trail (LawfulStore.record? store) id = [] := by
    rw [trail, vacant]
    rfl
  induction run with
  | rest =>
      refine ⟨fun id => ?_, fun id => ?_, fun _ _ impossible => ?_⟩
      · rw [noTrail]
        exact List.forall_mem_nil _
      · rw [noTrail]
        exact List.isChain_nil
      · cases impossible
  | move move run _ step chronicled =>
      refine chronicled.step (run.coherent sound) (fun id record found => ?_) (steps_of_step? step)
      rw [vacant] at found
      cases found

/-! ## Writes -/

omit [LawfulStore σ] in
theorem versions_of_steps {move : Move} (steps : fleet.Steps move next) (id : String) :
    next.versions id = fleet.versions id ∨
      ∃ record, next.versions id = fleet.versions id ++ [record] ∧ next.clock = fleet.clock := by
  cases steps with
  | passed | batchLaunched | intakeLaunched => exact .inl rfl
  | @acted index _ _ _ _ deeds there acts =>
      have atMostOne :
          (deeds.filterMap fun deed => HistoryEntry.version? id ⟨index, deed⟩).length ≤ 1 :=
        Nat.le_trans (List.length_filterMap_le _ _) (length_of_acts acts)
      rw [versions_replaced]
      rcases written : deeds.filterMap fun deed => HistoryEntry.version? id ⟨index, deed⟩ with
        _ | ⟨record, _ | ⟨other, others⟩⟩
      · exact .inl (List.append_nil _)
      · exact .inr ⟨record, rfl, rfl⟩
      · rw [written] at atMostOne
        simp at atMostOne

omit [LawfulStore σ] in
theorem Run.exists_write {start : Fleet σ} (fresh : start.versions id = [])
    (run : Run Free start fleet) (stored : record ∈ fleet.versions id) :
    ∃ before move after, Run Free start before ∧ before.step? move = some after ∧
      Run Free after fleet ∧ after.versions id = before.versions id ++ [record] ∧
      after.clock = before.clock := by
  induction run with
  | rest =>
      rw [fresh] at stored
      cases stored
  | @move fleet next move run admissible step induction =>
      by_cases old : record ∈ fleet.versions id
      · rcases induction old with ⟨before, write, after, reached, writes, further, others⟩
        exact ⟨before, write, after, reached, writes, .move move further admissible step, others⟩
      · rcases versions_of_steps (steps_of_step? step) id with same | ⟨last, grows, sameClock⟩
        · exact absurd (same ▸ stored) old
        · rw [grows] at stored
          cases List.mem_singleton.mp ((List.mem_append.mp stored).resolve_left old)
          exact ⟨fleet, move, next, run, step, .rest, grows, sameClock⟩

/-- What the times in the history of one record have to do with one another. -/
structure Chronological (start fleet : Fleet σ) (id : String) : Prop where
  current : LawfulStore.record? fleet.store id = (fleet.versions id).getLast?
  dates : ∀ record ∈ fleet.versions id, record.dates.times.Pairwise (· ≤ ·) ∧
    record.dates.settlementSubmittedAt = record.dates.completedAt
  logs : ∀ record ∈ fleet.versions id,
    record.logs.Pairwise fun earlier later => earlier.time ≤ later.time
  /-- Each state has been written at a time that its trail does not exceed. -/
  written : ∀ record ∈ fleet.versions id, ∃ before move after, Run Free start before ∧
    before.step? move = some after ∧ Run Free after fleet ∧
    after.versions id = before.versions id ++ [record] ∧
    ∀ entry ∈ record.logs, record.dates.createdAt ≤ entry.time ∧ entry.time ≤ before.seconds
  rising : (fleet.versions id).Pairwise fun earlier later =>
    earlier.dates.lastActivityAt ≤ later.dates.lastActivityAt

theorem times_in_order {clock : Nat} (sound : LawfulStore.Sound store)
    (vacant : ∀ id, LawfulStore.record? store id = none)
    (run : Run Free (initial store clock) fleet) (id : String) :
    Chronological (initial store clock) fleet id := by
  have noneBefore (reached : Fleet σ) :
      reached.trail (LawfulStore.record? store) id = reached.versions id := by
    rw [trail, vacant]
    rfl
  have past {reached : Fleet σ} (run : Run Free (initial store clock) reached) {record : Redemption}
      (stored : record ∈ reached.versions id) : record.Timely reached.seconds :=
    (run.chronicled sound vacant).past id record (noneBefore reached ▸ stored)
  constructor
  · exact noneBefore fleet ▸ (run.coherent sound).current id
  · exact fun record stored => ⟨(past run stored).ordered, (past run stored).settled⟩
  · exact fun record stored => (past run stored).logged
  · intro record stored
    rcases run.exists_write rfl stored with
      ⟨before, move, after, reached, writes, further, grows, sameClock⟩
    refine ⟨before, move, after, reached, writes, further, grows, ?_⟩
    have now : after.seconds = before.seconds :=
      congrArg (· / Duration.nanosecondsPerSecond) sameClock
    rw [← now]
    exact (past (.move move reached trivial writes) (grows ▸ List.mem_concat_self)).within
  · have rising := (run.chronicled sound vacant).rising id
    rw [noneBefore] at rising
    have times : ((fleet.versions id).map (·.dates.lastActivityAt)).IsChain (· ≤ ·) :=
      (List.isChain_map _).mpr rising
    exact List.pairwise_map.mp times.pairwise

/-- A change is noted two seconds before it is written, and its entry one second. -/
theorem times_in_order_of_slow_calls :
    ∃ fleet : Fleet MemoryStore, Chronological (initial ({} : MemoryStore) 0) fleet "0xa1" ∧
      (fleet.versions "0xa1").map (fun record => (record.dates.times, record.logs.map (·.time))) =
        [([1, 1], [1]), ([1, 2], [1]), ([1, 3, 3], [1, 4]), ([1, 3, 5], [1, 4]),
          ([1, 3, 6, 6, 6], [1, 4, 6])] := by
  let second : Move := .pass Duration.nanosecondsPerSecond
  let moves : List Move :=
    [second] ++ Sample.arrival ++ [second, .launchBatch .attestation {} none] ++ Sample.claim 1 ++
      [.act 1 .call, second, .act 1 (.hear Sample.attests), .act 1 .proceed, second,
        .act 1 .proceed, second, .act 1 .proceed, .launchBatch .settlement {} none] ++
      Sample.claim 2 ++ [.act 2 .call, second] ++ Sample.conclusion 2 Sample.settles
  have happened : ((initial ({} : MemoryStore) 0).follow? Free moves).map (fun fleet =>
      (fleet.versions "0xa1").map fun record => (record.dates.times, record.logs.map (·.time))) =
        some [([1, 1], [1]), ([1, 2], [1]), ([1, 3, 3], [1, 4]), ([1, 3, 5], [1, 4]),
          ([1, 3, 6, 6, 6], [1, 4, 6])] := by
    decide +kernel
  rcases Option.map_eq_some_iff.mp happened with ⟨fleet, followed, times⟩
  have run : Run Free (initial ({} : MemoryStore) 0) fleet := .of_follow? .rest followed
  exact ⟨fleet, times_in_order trivial (fun _ => rfl) run "0xa1", times⟩

end Fleet

end RedemptionRelay
