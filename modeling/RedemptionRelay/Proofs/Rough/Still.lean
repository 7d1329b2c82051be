import RedemptionRelay.Proofs.Rough.Isolation

/-! # Still weather

In still weather every answer comes at once, services answer the same call alike
each time, and nothing fails but the reads. So a batch happens in one moment: the
moment and the record decide what becomes of a record, whatever the batch does
before and after it, and the order of the records makes no difference.
-/

namespace RedemptionRelay

instance (phase : Phase) (record : Redemption) : Decidable (phase.Reads record) :=
  inferInstanceAs (Decidable (_ ∨ _))

/-! ## Records with room -/

namespace Redemption.Ready

variable {record next : Redemption} {writes : Nat}

theorem fewer {more : Nat} (ready : record.Ready more) (atMost : writes ≤ more) :
    record.Ready writes :=
  { ready with room := Nat.lt_of_le_of_lt (Nat.add_le_add_left atMost _) ready.room }

theorem apply {mark : Mark} {now logged : Nat} (ready : record.Ready (writes + 1))
    (alive : record.status.isTerminal = false) (noLease : mark.lease? = none)
    (nowFits : now < Width.bound64) (loggedFits : logged < Width.bound64)
    (retriesFit : mark.retries record.retryCount < Width.bound32)
    (changed : record.apply mark now logged = .ok next) :
    Ready writes { next with version := next.version + 1 } := by
  have version := version_of_apply changed
  have request := sameRequest_of_apply changed
  have room : next.version + 1 + writes < Width.bound64 := by
    have := ready.room
    omega
  exact
    { consistent := (ready.consistent.of_apply alive changed).withVersion _
      inRange := (inRange_of_apply ready.inRange nowFits loggedFits (by rw [noLease]; exact nofun)
        retriesFit changed).withVersion (Nat.lt_of_le_of_lt (Nat.le_add_right ..) room)
      room := room
      named := by
        show next.event.sourceTxHash = next.id
        rw [request.event, request.id]
        exact ready.named }

end Redemption.Ready

namespace Weather

/-- Reads fail as they may, and nothing else does. -/
def still (faults : Status → Option String → Option StoreError)
    (reply : (call : Call) → Option call.Reply) : Weather where
  duration _ _ := 0
  fault?
    | _, .listRecords status chain => faults status chain
    | _, _ => none
  reply _ := reply

section

variable {faults : Status → Option String → Option StoreError}
  {reply : (call : Call) → Option call.Reply} {phase : Phase} {policy : RetryPolicy}
  {record claimed : Redemption} {moment writes : Nat}

/-- What becomes of a record has nothing to do with the reads. -/
theorem fate_still : (still faults reply).fate phase policy record moment =
    (still (fun _ _ => none) reply).fate phase policy record moment :=
  rfl

theorem record_commit_still (next : Redemption) (outcome : Outcome) :
    ((still faults reply).commit record next outcome moment).record =
      { next with version := next.version + 1 } :=
  record_commit rfl

theorem ready_conclusion {mark : Mark} {outcome : Outcome} (ready : record.Ready (writes + 1))
    (alive : record.status.isTerminal = false) (noLease : mark.lease? = none)
    (retriesFit : mark.retries record.retryCount < Width.bound32)
    (inTime : secondOf moment < Width.bound64) :
    ((still faults reply).conclusion record mark outcome moment).record.Ready writes := by
  unfold conclusion
  dsimp only
  split
  · exact ready.fewer (Nat.le_succ writes)
  · next next applied =>
      rw [record_commit_still]
      exact ready.apply alive noLease inTime inTime retriesFit applied

theorem ready_pursuit {leaseUntil : Nat} {attempt : Attempt} (ready : record.Ready (writes + 2))
    (alive : record.status.isTerminal = false) (leaseFits : leaseUntil < Width.bound64)
    (retriesFit : record.retryCount + 1 < Width.bound32)
    (inTime : secondOf moment < Width.bound64) :
    ((still faults reply).pursuit policy record leaseUntil attempt moment).record.Ready writes := by
  let claimed : Redemption :=
    { record.claim leaseUntil (secondOf moment) with version := record.version + 1 }
  have holds : RetryPolicy.Holds record claimed :=
    RetryPolicy.holds_claim ready.consistent ready.inRange alive inTime leaseFits
      (ready.fewer (Nat.le_add_left 1 _)).room
  have isReady : claimed.Ready (writes + 1) :=
    { consistent := holds.consistent
      inRange := holds.inRange
      room := by
        have := ready.room
        show record.version + 1 + (writes + 1) < Width.bound64
        omega
      named := ready.named }
  have ended : ((still faults reply).errand policy claimed attempt moment).record.Ready writes :=
    ready_conclusion isReady alive RetryPolicy.lease?_conclude
      (Nat.lt_of_le_of_lt (Mark.retries_le ..) retriesFit) inTime
  rw [pursuit_of_ok rfl]
  exact ended

theorem ready_fate (ready : record.Ready (writes + 2)) (reads : phase.Reads record)
    (retriesFit : policy.maxRetries + 1 < Width.bound32)
    (inTime : secondOf moment < Width.bound64) :
    ((still faults reply).fate phase policy record moment).record.Ready writes := by
  cases decided : policy.decide phase record (secondOf moment) with
  | skip reason =>
      rw [fate_of_decide decided]
      exact ready.fewer (Nat.le_add_right writes 2)
  | overflow =>
      rw [fate_of_decide decided]
      exact ready.fewer (Nat.le_add_right writes 2)
  | abandon error =>
      rw [fate_of_decide decided]
      exact ready_conclusion (ready.fewer (Nat.le_succ _)) reads.alive rfl ready.inRange.2.1 inTime
  | attempt call limit leaseUntil =>
      rw [fate_of_decide decided]
      have retriesLeft : record.retryCount ≤ policy.maxRetries :=
        RetryPolicy.retryCount_le_of_reads ready.consistent reads
          (RetryPolicy.attempts_of_decide decided).retriesLeft
      exact ready_pursuit ready reads.alive
        (Redemption.lt_bound64_of_le_maxTime (RetryPolicy.leaseUntil_le_of_decide decided))
        (Nat.lt_of_le_of_lt (Nat.succ_le_succ retriesLeft) retriesFit) inTime

def turn (weather : Weather) (phase : Phase) (policy : RetryPolicy) (moment : Nat)
    (record : Redemption) : Redemption :=
  if weather.readFault? phase (some record.chain) moment = none ∧ phase.Reads record then
    (weather.fate phase policy record moment).record
  else record

theorem chain_turn {weather : Weather} :
    (weather.turn phase policy moment record).chain = record.chain := by
  unfold turn
  split
  · exact request_of_fate.chain
  · rfl

theorem ready_turn (ready : record.Ready (writes + 2))
    (retriesFit : policy.maxRetries + 1 < Width.bound32)
    (inTime : secondOf moment < Width.bound64) :
    ((still faults reply).turn phase policy moment record).Ready writes := by
  unfold turn
  split
  · next readable => exact ready_fate ready readable.2 retriesFit inTime
  · exact ready.fewer (Nat.le_add_right writes 2)

theorem turn_still (readable :
      (still faults reply).readFault? phase (some record.chain) moment = none) :
    (still faults reply).turn phase policy moment record =
      (still (fun _ _ => none) reply).turn phase policy moment record := by
  unfold turn
  rw [readable, fate_still]
  rfl

end

/-! ## The summary -/

/-- The count of a batch that deals with all these records at one moment, unless
it breaks off. -/
def tally (weather : Weather) (phase : Phase) (policy : RetryPolicy) (moment : Nat)
    (summary : Summary) : List Redemption → Option Summary
  | [] => some summary
  | record :: queue =>
      (weather.fate phase policy record moment).outcome.bind fun outcome =>
        tally weather phase policy moment (summary.count outcome) queue

end Weather

theorem Summary.count_comm (summary : Summary) (left right : Outcome) :
    (summary.count left).count right = (summary.count right).count left := by
  cases left <;> cases right <;> rfl

namespace Weather

variable {weather : Weather} {phase : Phase} {policy : RetryPolicy} {moment : Nat}

theorem tally_of_perm {queue other : List Redemption} (perm : queue.Perm other)
    (summary : Summary) :
    weather.tally phase policy moment summary queue =
      weather.tally phase policy moment summary other := by
  induction perm generalizing summary with
  | nil => rfl
  | cons record _ induction =>
      unfold tally
      exact congrArg _ (funext fun outcome => induction _)
  | swap left right queue =>
      simp only [tally]
      cases (weather.fate phase policy left moment).outcome with
      | none => cases (weather.fate phase policy right moment).outcome <;> rfl
      | some leftOutcome =>
          cases (weather.fate phase policy right moment).outcome with
          | none => rfl
          | some rightOutcome =>
              simp only [Option.bind_some]
              rw [Summary.count_comm]
  | trans _ _ first second => exact (first summary).trans (second summary)

theorem isSome_tally {queue : List Redemption} (summary : Summary)
    (goesOn : ∀ record ∈ queue, (weather.fate phase policy record moment).outcome.isSome) :
    (weather.tally phase policy moment summary queue).isSome := by
  induction queue generalizing summary with
  | nil => rfl
  | cons record queue induction =>
      rcases Option.isSome_iff_exists.mp (goesOn record List.mem_cons_self) with ⟨outcome, is⟩
      unfold tally
      rw [is]
      exact induction _ fun other among => goesOn other (List.mem_cons_of_mem _ among)

end Weather

namespace Rough

variable {σ : Type} [Store σ] {faults : Status → Option String → Option StoreError}
  {reply : (call : Call) → Option call.Reply} {phase : Phase} {policy : RetryPolicy}
  {chain : String} {world : Rough σ} {record : Redemption} {queue : List Redemption}
  {summary : Summary} {writes : Nat}

/-! ## No time passes -/

omit [Store σ] in
theorem seconds_of_clock {before after : Rough σ} (sameClock : after.clock = before.clock) :
    after.seconds = before.seconds :=
  congrArg (· / _) sameClock

omit [Store σ] in
theorem inTime_of_clock {before after : Rough σ} (sameClock : after.clock = before.clock)
    (inTime : before.seconds < Width.bound64) : after.seconds < Width.bound64 := by
  rw [seconds_of_clock sameClock]
  exact inTime

theorem clock_run_still {State Result : Type} [Activity State Result] (state : State) :
    (Activity.run (answer (.still faults reply)) world state).2.clock = world.clock :=
  Activity.holds_run (fun after : Rough σ => after.clock = world.clock)
    (fun _ request same => (clock_answer request).trans same) rfl

theorem clock_attendAll_still :
    (Batch.attendAll (answer (.still faults reply)) phase policy summary queue world).2.clock =
      world.clock := by
  let batch : Batch := { Batch.start phase policy none with summary := summary }
  have ran : Activity.run (answer (.still faults reply)) world (batch.proceed queue) =
      Batch.attendAll (answer (.still faults reply)) phase policy summary queue world :=
    Batch.run_proceed ..
  rw [← ran]
  exact clock_run_still _

theorem clock_attend_still :
    (Batch.attend (answer (.still faults reply)) phase policy record world).2.clock =
      world.clock := by
  have alone : (Batch.attendAll (answer (.still faults reply)) phase policy {} [record] world).2 =
      (Batch.attend (answer (.still faults reply)) phase policy record world).2 := by
    unfold Batch.attendAll
    rcases Batch.attend _ phase policy record world with ⟨_ | outcome, after⟩ <;> rfl
  rw [← alone]
  exact clock_attendAll_still

/-! ## One batch -/

variable [LawfulStore σ]

/-- The batch has come to the end of this queue, or broken off. -/
structure Attended (weather : Weather) (phase : Phase) (policy : RetryPolicy) (summary : Summary)
    (queue : List Redemption) (before : Rough σ) (result : BatchResult × Rough σ) : Prop where
  sound : LawfulStore.Sound result.2.store
  answer : result.1 =
    match weather.tally phase policy before.clock summary queue with
    | some total => .summary total
    | none => .overflow
  others : ∀ id, id ∉ queue.map (·.id) →
    LawfulStore.record? result.2.store id = LawfulStore.record? before.store id
  queued : result.1 ≠ .overflow → ∀ record ∈ queue,
    LawfulStore.record? result.2.store record.id =
      some (weather.fate phase policy record before.clock).record

theorem Attended.broken {weather : Weather} {after : Rough σ}
    (befalls : Befalls world (none, after) record.id
      (weather.fate phase policy record world.clock)) :
    Attended weather phase policy summary (record :: queue) world (.overflow, after) where
  sound := befalls.sound
  answer := by
    have breaksOff : none = _ := befalls.outcome
    unfold Weather.tally
    rw [← breaksOff]
    rfl
  others id absent := by
    rw [List.map_cons, List.mem_cons, not_or] at absent
    exact (befalls.records id).trans (if_neg absent.1)
  queued goesOn := absurd rfl goesOn

theorem Attended.cons {weather : Weather} {outcome : Outcome} {after : Rough σ}
    {result : BatchResult × Rough σ}
    (attended : Attended weather phase policy (summary.count outcome) queue after result)
    (befalls : Befalls world (some outcome, after) record.id
      (weather.fate phase policy record world.clock))
    (distinct : record.id ∉ queue.map (·.id)) (sameClock : after.clock = world.clock) :
    Attended weather phase policy summary (record :: queue) world result where
  sound := attended.sound
  answer := by
    have goesOn : some outcome = _ := befalls.outcome
    rw [attended.answer, sameClock]
    conv_rhs => unfold Weather.tally
    rw [← goesOn]
    rfl
  others id absent := by
    rw [List.map_cons, List.mem_cons, not_or] at absent
    exact (attended.others id absent.2).trans ((befalls.records id).trans (if_neg absent.1))
  queued goesOn other among := by
    rcases List.mem_cons.mp among with rfl | among
    · exact (attended.others _ distinct).trans ((befalls.records _).trans (if_pos rfl))
    · rw [← sameClock]
      exact attended.queued goesOn other among

theorem attended_still (queued : Queued phase queue world)
    (retriesFit : policy.maxRetries + 1 < Width.bound32) (inTime : world.seconds < Width.bound64) :
    Attended (.still faults reply) phase policy summary queue world
      (Batch.attendAll (answer (.still faults reply)) phase policy summary queue world) := by
  induction queue generalizing world summary with
  | nil => exact ⟨queued.sound, rfl, fun _ _ => rfl, fun _ _ among => nomatch among⟩
  | cons record queue induction =>
      rcases attended : Batch.attend (answer (.still faults reply)) phase policy record world with
        ⟨ended, after⟩
      have sameClock : after.clock = world.clock := by
        rw [← show _ = after from congrArg Prod.snd attended]
        exact clock_attend_still
      have inTimeAfter := inTime_of_clock sameClock inTime
      have befalls : Befalls world (ended, after) record.id
          (Weather.fate (.still faults reply) phase policy record world.clock) := by
        rw [← attended]
        refine befalls_attend queued.sound (queued.current record List.mem_cons_self)
          (queued.handles record List.mem_cons_self) (RetryPolicy.canCount retriesFit) ?_
        rw [attended]
        exact inTimeAfter
      rw [Batch.attendAll, attended]
      cases ended with
      | none => exact .broken befalls
      | some outcome =>
          have distinct := List.nodup_cons.mp queued.distinct
          exact (induction (befalls.queued queued) inTimeAfter).cons befalls distinct.1 sameClock

/-- What a batch answers, as far as the store and the moment decide it. -/
def verdict (weather : Weather) (phase : Phase) (policy : RetryPolicy) (chain : String)
    (world : Rough σ) : BatchResult :=
  match weather.readFault? phase (some chain) world.clock with
  | some error => .unreadable error
  | none =>
      match weather.tally phase policy world.clock {} (phase.reading (some chain) world.store) with
      | some total => .summary total
      | none => .overflow

omit [LawfulStore σ] in
theorem verdict_ne_overflow (inTime : InTime policy phase world) :
    world.verdict (.still faults reply) phase policy chain ≠ .overflow := by
  have counts : (Weather.tally (.still faults reply) phase policy world.clock {}
      (phase.reading (some chain) world.store)).isSome :=
    Weather.isSome_tally {} fun _ _ => Weather.isSome_outcome_of_fate inTime
  rcases Option.isSome_iff_exists.mp counts with ⟨total, counted⟩
  unfold verdict
  rw [counted]
  split <;> nofun

/-- A batch has made its turn through the records of a chain, and has left the
others alone. -/
structure Turned (weather : Weather) (phase : Phase) (policy : RetryPolicy) (chain : String)
    (before : Rough σ) (result : BatchResult × Rough σ) : Prop where
  sound : LawfulStore.Sound result.2.store
  clock : result.2.clock = before.clock
  answer : result.1 = before.verdict weather phase policy chain
  others : ∀ id, (∀ record ∈ LawfulStore.record? before.store id, record.chain ≠ chain) →
    LawfulStore.record? result.2.store id = LawfulStore.record? before.store id
  turned : result.1 ≠ .overflow → ∀ id, ∀ record ∈ LawfulStore.record? before.store id,
    record.chain = chain →
      LawfulStore.record? result.2.store id =
        some (weather.turn phase policy before.clock record)

/-- Nothing keeps a batch from dealing with these records. -/
def Prepared (writes : Nat) (chain : String) (world : Rough σ) : Prop :=
  ∀ id, ∀ record ∈ LawfulStore.record? world.store id, record.chain = chain → record.Ready writes

theorem mem_chain_reading (sound : LawfulStore.Sound world.store) :
    record ∈ phase.reading (some chain) world.store ↔
      LawfulStore.record? world.store record.id = some record ∧ phase.Reads record ∧
        record.chain = chain := by
  rw [Phase.mem_reading sound]
  exact and_congr_right' (and_congr_right' beq_iff_eq)

theorem turned_of_unreadable {error : StoreError} (sound : LawfulStore.Sound world.store)
    (fault : (Weather.still faults reply).readFault? phase (some chain) world.clock = some error) :
    Turned (.still faults reply) phase policy chain world
      (Activity.run (answer (.still faults reply)) world
        (Batch.start phase policy (some chain))) := by
  have sameClock : (Activity.run (answer (.still faults reply)) world
      (Batch.start phase policy (some chain))).2.clock = world.clock := clock_run_still _
  rcases run_of_unreadable policy sound fault with ⟨after, ran, sameStore, -⟩
  rw [ran] at sameClock ⊢
  refine ⟨?_, sameClock, ?_, ?_, ?_⟩
  · exact sameStore ▸ sound
  · unfold verdict
    rw [fault]
  · intro id _
    rw [sameStore]
  · rintro - id record found rfl
    have untouched : Weather.turn (.still faults reply) phase policy world.clock record = record :=
      if_neg fun readable => by
        rw [fault] at readable
        cases readable.1
    rw [sameStore, untouched]
    exact found

theorem turned_of_readable [ListsOnce σ] (sound : LawfulStore.Sound world.store)
    (prepared : world.Prepared (writes + 2) chain)
    (retriesFit : policy.maxRetries + 1 < Width.bound32) (inTime : world.seconds < Width.bound64)
    (works : (Weather.still faults reply).readFault? phase (some chain) world.clock = none) :
    Turned (.still faults reply) phase policy chain world
      (Activity.run (answer (.still faults reply)) world
        (Batch.start phase policy (some chain))) := by
  have handles (record : Redemption) (among : record ∈ phase.reading (some chain) world.store) :
      phase.Handles record := by
    rcases (mem_chain_reading sound).mp among with ⟨found, reads, ofChain⟩
    exact ((prepared record.id record found ofChain).fewer (Nat.le_add_left 2 writes)).handles reads
  have queued : Queued phase (phase.reading (some chain) world.store)
      (world.loaded (.still faults reply) phase (some chain)) := queued_loaded sound handles
  have attended : Attended (.still faults reply) phase policy {} _ _ _ :=
    attended_still queued retriesFit inTime
  rw [run_of_readable sound works]
  refine ⟨attended.sound, clock_attendAll_still, ?_, ?_, ?_⟩
  · unfold verdict
    rw [works]
    exact attended.answer
  · intro id strange
    refine attended.others id fun listed => ?_
    rcases List.mem_map.mp listed with ⟨record, among, rfl⟩
    rcases (mem_chain_reading sound).mp among with ⟨found, -, ofChain⟩
    exact strange record found ofChain
  · rintro goesOn id record found rfl
    have named := LawfulStore.id_of_record? sound found
    subst named
    by_cases reads : phase.Reads record
    · rw [Weather.turn, if_pos ⟨works, reads⟩]
      exact attended.queued goesOn record ((mem_chain_reading sound).mpr ⟨found, reads, rfl⟩)
    · rw [Weather.turn, if_neg fun readable => reads readable.2]
      refine (attended.others record.id fun listed => ?_).trans found
      rcases List.mem_map.mp listed with ⟨other, among, sameId⟩
      rcases (mem_chain_reading sound).mp among with ⟨there, readsOther, -⟩
      rw [sameId] at there
      cases there.symm.trans found
      exact reads readsOther

theorem turned_run [ListsOnce σ] (sound : LawfulStore.Sound world.store)
    (prepared : world.Prepared (writes + 2) chain)
    (retriesFit : policy.maxRetries + 1 < Width.bound32) (inTime : world.seconds < Width.bound64) :
    Turned (.still faults reply) phase policy chain world
      (Activity.run (answer (.still faults reply)) world
        (Batch.start phase policy (some chain))) := by
  cases fault : (Weather.still faults reply).readFault? phase (some chain) world.clock with
  | some error => exact turned_of_unreadable sound fault
  | none => exact turned_of_readable sound prepared retriesFit inTime fault

/-! ## What a batch leaves behind -/

section

variable {result other : BatchResult × Rough σ}

theorem Turned.records {weather : Weather}
    (turned : Turned weather phase policy chain world result) (goesOn : result.1 ≠ .overflow)
    (id : String) :
    LawfulStore.record? result.2.store id = (LawfulStore.record? world.store id).map fun record =>
      if record.chain = chain then weather.turn phase policy world.clock record else record := by
  cases found : LawfulStore.record? world.store id with
  | none =>
      refine (turned.others id fun record there => ?_).trans found
      rw [found] at there
      cases there
  | some record =>
      rw [Option.map_some]
      split
      · next ofChain => exact turned.turned goesOn id record found ofChain
      · next strange =>
          refine (turned.others id ?_).trans found
          rw [found]
          rintro other ⟨⟩
          exact strange

theorem Turned.mem_iff {weather : Weather} {id : String}
    (turned : Turned weather phase policy chain world result) (goesOn : result.1 ≠ .overflow)
    (ofChain : record.chain = chain) :
    record ∈ LawfulStore.record? result.2.store id ↔
      ∃ before ∈ LawfulStore.record? world.store id, before.chain = chain ∧
        weather.turn phase policy world.clock before = record := by
  rw [turned.records goesOn, Option.mem_def, Option.map_eq_some_iff]
  constructor
  · rintro ⟨before, there, rfl⟩
    split at ofChain
    · next sameChain => exact ⟨before, there, sameChain, (if_pos sameChain).symm⟩
    · next strange => exact absurd ofChain strange
  · rintro ⟨before, there, sameChain, rfl⟩
    exact ⟨before, there, if_pos sameChain⟩

theorem Turned.prepared (turned : Turned (.still faults reply) phase policy chain world result)
    (goesOn : result.1 ≠ .overflow) (prepared : world.Prepared (writes + 2) chain)
    (retriesFit : policy.maxRetries + 1 < Width.bound32) (inTime : world.seconds < Width.bound64) :
    result.2.Prepared writes chain := by
  intro id record found ofChain
  rcases (turned.mem_iff goesOn ofChain).mp found with ⟨before, there, sameChain, rfl⟩
  exact Weather.ready_turn (prepared id before there sameChain) retriesFit inTime

/-! ## Worlds that agree on a chain -/

/-- The same moment, and the same records of this chain. -/
structure SameOn (chain : String) (left right : Rough σ) : Prop where
  clock : left.clock = right.clock
  records : ∀ id record, record.chain = chain →
    (record ∈ LawfulStore.record? left.store id ↔ record ∈ LawfulStore.record? right.store id)

variable {left right : Rough σ}

theorem SameOn.refl : SameOn chain world world :=
  ⟨rfl, fun _ _ _ => Iff.rfl⟩

theorem SameOn.trans {last : Rough σ} (first : SameOn chain left right)
    (second : SameOn chain right last) : SameOn chain left last :=
  ⟨first.clock.trans second.clock, fun id record ofChain =>
    (first.records id record ofChain).trans (second.records id record ofChain)⟩

theorem SameOn.prepared (same : SameOn chain left right) (prepared : left.Prepared writes chain) :
    right.Prepared writes chain :=
  fun id record there ofChain =>
    prepared id record ((same.records id record ofChain).mpr there) ofChain

theorem SameOn.reading [ListsOnce σ] (same : SameOn chain left right)
    (leftSound : LawfulStore.Sound left.store) (rightSound : LawfulStore.Sound right.store) :
    (phase.reading (some chain) left.store).Perm (phase.reading (some chain) right.store) := by
  refine (List.perm_ext_iff_of_nodup ?_ ?_).mpr fun record => ?_
  · exact (Phase.nodup_reading leftSound).of_map _
  · exact (Phase.nodup_reading rightSound).of_map _
  · rw [mem_chain_reading leftSound, mem_chain_reading rightSound]
    constructor
    · rintro ⟨found, reads, ofChain⟩
      exact ⟨(same.records _ _ ofChain).mp found, reads, ofChain⟩
    · rintro ⟨found, reads, ofChain⟩
      exact ⟨(same.records _ _ ofChain).mpr found, reads, ofChain⟩

theorem SameOn.verdict [ListsOnce σ] {weather : Weather} (same : SameOn chain left right)
    (leftSound : LawfulStore.Sound left.store) (rightSound : LawfulStore.Sound right.store) :
    left.verdict weather phase policy chain = right.verdict weather phase policy chain := by
  unfold Rough.verdict
  rw [same.clock, Weather.tally_of_perm (same.reading leftSound rightSound)]

theorem SameOn.turned {weather : Weather} (same : SameOn chain left right)
    (leftTurned : Turned weather phase policy chain left result)
    (rightTurned : Turned weather phase policy chain right other)
    (leftGoesOn : result.1 ≠ .overflow) (rightGoesOn : other.1 ≠ .overflow) :
    SameOn chain result.2 other.2 := by
  refine ⟨leftTurned.clock.trans (same.clock.trans rightTurned.clock.symm), ?_⟩
  intro id record ofChain
  rw [leftTurned.mem_iff leftGoesOn ofChain, rightTurned.mem_iff rightGoesOn ofChain, same.clock]
  constructor
  · rintro ⟨before, there, sameChain, turned⟩
    exact ⟨before, (same.records id before sameChain).mp there, sameChain, turned⟩
  · rintro ⟨before, there, sameChain, turned⟩
    exact ⟨before, (same.records id before sameChain).mpr there, sameChain, turned⟩

theorem Turned.sameOn {weather : Weather} {elsewhere : String}
    (turned : Turned weather phase policy elsewhere world result) (goesOn : result.1 ≠ .overflow)
    (different : chain ≠ elsewhere) : SameOn chain world result.2 := by
  refine ⟨turned.clock.symm, fun id record ofChain => ?_⟩
  rw [turned.records goesOn id, Option.mem_def, Option.mem_def, Option.map_eq_some_iff]
  constructor
  · intro there
    exact ⟨record, there, if_neg (ofChain ▸ different)⟩
  · rintro ⟨before, there, turns⟩
    split at turns
    · next here =>
        have sameChain := congrArg Redemption.chain turns
        rw [Weather.chain_turn, here, ofChain] at sameChain
        exact absurd sameChain.symm different
    · exact turns ▸ there

end

end Rough

end RedemptionRelay
