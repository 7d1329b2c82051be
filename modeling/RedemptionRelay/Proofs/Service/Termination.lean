import RedemptionRelay.Proofs.Calm.Batch
import RedemptionRelay.Proofs.Fleet.Widths
import RedemptionRelay.Proofs.Service

/-! # Every redemption ends

The ticks of a single worker bring every redemption of a configured chain nearer
to its end, if no tick comes too early after a failure. The number of ticks is
bounded by the retries; once all records have ended, nothing happens any more.
-/

namespace RedemptionRelay

namespace Calm

variable {σ : Type} [Store σ] {circumstances : Circumstances}
  {world before between after : Calm σ} {policy : RetryPolicy}

/-! ## Both batches of a chain -/

variable [LawfulStore σ]

/-- Records stay as they are or come nearer to their end. -/
structure Nears (policy : RetryPolicy) (before after : Calm σ) : Prop where
  steady : after.Steady policy
  passes : before.clock ≤ after.clock
  records : ∀ id, LawfulStore.record? after.store id = LawfulStore.record? before.store id ∨
    ∃ record next, LawfulStore.record? before.store id = some record ∧
      LawfulStore.record? after.store id = some next ∧ next.chain = record.chain ∧
      policy.ticksLeft next < policy.ticksLeft record

def HasNeared (policy : RetryPolicy) (after : Calm σ) (id : String) (record : Redemption) : Prop :=
  ∃ next, LawfulStore.record? after.store id = some next ∧ next.chain = record.chain ∧
    policy.ticksLeft next < policy.ticksLeft record

theorem Nears.refl (steady : world.Steady policy) : Nears policy world world :=
  ⟨steady, Nat.le_refl _, fun _ => .inl rfl⟩

theorem HasNeared.of_nears {id : String} {record : Redemption}
    (neared : HasNeared policy between id record) (nears : Nears policy between after) :
    HasNeared policy after id record := by
  rcases neared with ⟨next, found, chain, fewer⟩
  rcases nears.records id with same | ⟨next', last, found', foundLast, chain', fewer'⟩
  · exact ⟨next, same.trans found, chain, fewer⟩
  · cases found.symm.trans found'
    exact ⟨last, foundLast, chain'.trans chain, Nat.lt_trans fewer' fewer⟩

theorem Nears.trans (first : Nears policy before between) (second : Nears policy between after) :
    Nears policy before after where
  steady := second.steady
  passes := Nat.le_trans first.passes second.passes
  records id := by
    rcases first.records id with same | ⟨record, next, found, neared⟩
    · rw [← same]
      exact second.records id
    · have ⟨last, foundLast, fewer⟩ := HasNeared.of_nears ⟨next, neared⟩ second
      exact .inr ⟨record, last, found, foundLast, fewer⟩

section

variable {chain : String}

theorem ticksLeft_lt_of_settlement {now : Nat} {record next : Redemption}
    (reads : Phase.settlement.Reads record) (advances : policy.Advances now record next) :
    policy.ticksLeft next < policy.ticksLeft record := by
  refine advances.ticksLeft_lt fun begins => ?_
  rcases reads with status | status <;> rw [status] at begins <;> cases begins.1

/-- A record that has just been fetched is settled at once. -/
theorem hasNeared_of_attestation {id : String} {record next : Redemption}
    (second : Carries policy .settlement chain between after) (ofChain : record.chain = chain)
    (foundNext : LawfulStore.record? between.store id = some next)
    (advances : policy.Advances between.seconds record next) :
    HasNeared policy after id record := by
  by_cases fetched : record.status.rank = 0 ∧ next.status.rank = 1
  · have status : next.status = .fetched := advances.fresh fetched.1 fetched.2
    have rested : policy.Rested between.seconds next := by
      intro retryable
      rw [status] at retryable
      cases retryable
    have ⟨last, foundLast, settles⟩ :=
      second.reaches id next foundNext (advances.request.chain.trans ofChain) (.inl status) rested
    exact ⟨last, foundLast, settles.request.chain.trans advances.request.chain,
      advances.ticksLeft_lt_of_both settles⟩
  · have fewer := advances.ticksLeft_lt fetched
    rcases second.records id with same | ⟨next', last, found', -, -, foundLast, settles⟩
    · exact ⟨next, same.trans foundNext, advances.request.chain, fewer⟩
    · cases foundNext.symm.trans found'
      exact ⟨last, foundLast, settles.request.chain.trans advances.request.chain,
        Nat.lt_of_le_of_lt settles.ticksLeft_le fewer⟩

theorem nears_of_carries (steady : before.Steady policy)
    (first : Carries policy .attestation chain before between)
    (second : Carries policy .settlement chain between after) : Nears policy before after where
  steady := second.steady (first.steady steady)
  passes := Nat.le_trans first.passes second.passes
  records id := by
    rcases first.records id with same | ⟨record, next, found, ofChain, -, foundNext, advances⟩
    · rw [← same]
      rcases second.records id with unchanged | ⟨record, next, found, -, reads, foundNext, advances⟩
      · exact .inl unchanged
      · exact .inr ⟨record, next, found, foundNext, advances.request.chain,
          ticksLeft_lt_of_settlement reads advances⟩
    · have ⟨last, foundLast, fewer⟩ := hasNeared_of_attestation second ofChain foundNext advances
      exact .inr ⟨record, last, found, foundLast, fewer⟩

theorem hasNeared_of_carries {id : String} {record : Redemption}
    (first : Carries policy .attestation chain before between)
    (second : Carries policy .settlement chain between after)
    (found : LawfulStore.record? before.store id = some record) (ofChain : record.chain = chain)
    (alive : record.status.isTerminal = false) (rested : policy.Rested before.seconds record) :
    HasNeared policy after id record := by
  rcases Phase.reads_of_alive alive with attests | settles
  · have ⟨next, foundNext, advances⟩ := first.reaches id record found ofChain attests rested
    exact hasNeared_of_attestation second ofChain foundNext advances
  · rcases first.records id with same | ⟨record', next, found', -, -, foundNext, advances⟩
    · have ⟨next, foundNext, advances⟩ := second.reaches id record (same.trans found) ofChain settles
        (rested.mono (seconds_le first.passes))
      exact ⟨next, foundNext, advances.request.chain, ticksLeft_lt_of_settlement settles advances⟩
    · cases found.symm.trans found'
      exact hasNeared_of_attestation second ofChain foundNext advances

end

/-! ## Ticks -/

omit [LawfulStore σ] in
theorem passes_runBatches (report : TickReport) (batches : List (Phase × String)) :
    world.clock ≤
      (ServiceSettings.runBatches (answer circumstances) policy report world batches).2.clock :=
  ServiceSettings.holds_runBatches policy (fun later : Calm σ => world.clock ≤ later.clock)
    (fun _ request passed => Nat.le_trans passed (clock_le_answer request)) (Nat.le_refl _) report
    batches

omit [LawfulStore σ] in
theorem passes_runBatches_cons (report : TickReport) (phase : Phase) (chain : String)
    (rest : List (Phase × String)) :
    (Activity.run (answer circumstances) world (Batch.start phase policy (some chain))).2.clock ≤
      (ServiceSettings.runBatches (answer circumstances) policy report world
        ((phase, chain) :: rest)).2.clock := by
  rw [ServiceSettings.runBatches_step]
  dsimp only
  split
  · exact passes_runBatches _ _
  · exact Nat.le_refl _

/-- No call of a policy made by this second would be leased past the end of time.
There the batch would break off. -/
def InTime (policy : RetryPolicy) (world : Calm σ) : Prop :=
  ∀ phase, world.seconds + policy.holdSeconds (policy.timeout phase) ≤ Redemption.maxTime

omit [Store σ] [LawfulStore σ] in
theorem InTime.earlier (inTime : InTime policy after) (passes : before.clock ≤ after.clock) :
    InTime policy before :=
  fun phase => Nat.le_trans (Nat.add_le_add_right (seconds_le passes) _) (inTime phase)

theorem runBatches_cons {phase : Phase} {chain : String} {report : TickReport}
    {rest : List (Phase × String)} (steady : world.Steady policy)
    (retriesFit : policy.maxRetries + 1 < Width.bound32)
    (inTime : InTime policy (ServiceSettings.runBatches (answer circumstances) policy report world
      ((phase, chain) :: rest)).2) :
    ∃ report' between,
      ServiceSettings.runBatches (answer circumstances) policy report world
          ((phase, chain) :: rest) =
        ServiceSettings.runBatches (answer circumstances) policy report' between rest ∧
      Carries policy phase chain world between := by
  have ⟨total, between, ran, carries⟩ := carries_run chain steady retriesFit
    (inTime.earlier (passes_runBatches_cons ..) phase)
  refine ⟨report.addSummary phase total, between, ?_, carries⟩
  rw [ServiceSettings.runBatches]
  rw [ran]
  rfl

/-- A tick brings every record nearer that does not have to wait. -/
theorem nears_runBatches (chains : List Chain) (report : TickReport) (steady : world.Steady policy)
    (retriesFit : policy.maxRetries + 1 < Width.bound32)
    (inTime : InTime policy (ServiceSettings.runBatches (answer circumstances) policy report world
      (chains.flatMap fun chain => [(.attestation, chain.name), (.settlement, chain.name)])).2) :
    ∃ report' after,
      ServiceSettings.runBatches (answer circumstances) policy report world
          (chains.flatMap fun chain => [(.attestation, chain.name), (.settlement, chain.name)]) =
        (some report', after) ∧
      Nears policy world after ∧
      ∀ id record, LawfulStore.record? world.store id = some record →
        record.status.isTerminal = false → record.chain ∈ chains.map (·.name) →
          policy.Rested world.seconds record → HasNeared policy after id record := by
  induction chains generalizing world report with
  | nil => exact ⟨report, world, rfl, .refl steady, by simp⟩
  | cons chain rest induction =>
      rw [List.flatMap_cons] at inTime ⊢
      dsimp only [List.cons_append, List.nil_append] at inTime ⊢
      have ⟨reported, attested, attests, first⟩ := runBatches_cons steady retriesFit inTime
      rw [attests] at inTime ⊢
      have ⟨reported', settled, settles, second⟩ :=
        runBatches_cons (first.steady steady) retriesFit inTime
      rw [settles] at inTime ⊢
      have nears := nears_of_carries steady first second
      have ⟨report', after, finished, nearsAfter, reaches⟩ := induction _ nears.steady inTime
      refine ⟨report', after, finished, nears.trans nearsAfter, ?_⟩
      intro id record found alive configured rested
      by_cases ofChain : record.chain = chain.name
      · exact (hasNeared_of_carries first second found ofChain alive rested).of_nears nearsAfter
      · have configured : record.chain ∈ rest.map (·.name) := by
          simpa [ofChain] using configured
        rcases nears.records id with same | ⟨record', next, found', neared⟩
        · exact reaches id record (same.trans found) alive configured
            (rested.mono (seconds_le nears.passes))
        · cases found.symm.trans found'
          exact HasNeared.of_nears ⟨next, neared⟩ nearsAfter

/-! ## Rounds

A service that runs for itself ticks, pauses and ticks again. -/

/-- One tick, and one more after each of the pauses. -/
def rounds (settings : ServiceSettings) (circumstances : Circumstances) (world : Calm σ) :
    List Nat → List (Option TickReport) × Calm σ
  | [] =>
      let (report, world) := settings.tick (answer circumstances) world
      ([report], world)
  | pause :: later =>
      let (report, world) := settings.tick (answer circumstances) world
      let (reports, world) := rounds settings circumstances (world.elapse pause) later
      (report :: reports, world)

variable {settings : ServiceSettings}

omit [LawfulStore σ] in
theorem passes_rounds (pauses : List Nat) :
    (settings.tick (answer circumstances) world).2.clock ≤
      (rounds settings circumstances world pauses).2.clock := by
  induction pauses generalizing world with
  | nil => exact Nat.le_refl _
  | cons pause later induction =>
      let next := (settings.tick (answer circumstances) world).2.elapse pause
      have paused : (settings.tick (answer circumstances) world).2.clock ≤ next.clock :=
        Nat.le_add_right _ _
      have ticked : next.clock ≤ (settings.tick (answer circumstances) next).2.clock :=
        passes_runBatches _ _
      exact Nat.le_trans paused (Nat.le_trans ticked induction)

/-- The records that have not ended will have done so after this many ticks. -/
structure Settling (settings : ServiceSettings) (ticks : Nat) (world : Calm σ) : Prop where
  steady : world.Steady settings.policy
  alive : ∀ id record, LawfulStore.record? world.store id = some record →
    record.status.isTerminal = false →
      record.chain ∈ settings.chains.map (·.name) ∧ settings.policy.Rested world.seconds record
  near : ∀ id record, LawfulStore.record? world.store id = some record →
    settings.policy.ticksLeft record ≤ ticks

theorem Steady.elapse (steady : world.Steady policy) (pause : Nat) :
    (world.elapse pause).Steady policy where
  sound := steady.sound
  records id record found alive :=
    (steady.records id record found alive).mono (seconds_le (Nat.le_add_right _ _))

theorem Nears.elapse (nears : Nears policy before after) (pause : Nat) :
    Nears policy before (after.elapse pause) where
  steady := nears.steady.elapse pause
  passes := Nat.le_trans nears.passes (Nat.le_add_right _ _)
  records := nears.records

omit [Store σ] [LawfulStore σ] in
theorem seconds_elapse {pause wait : Nat} (long : wait * Duration.nanosecondsPerSecond ≤ pause) :
    world.seconds + wait ≤ (world.elapse pause).seconds := by
  unfold seconds elapse Duration.nanosecondsPerSecond at *
  dsimp only
  omega

theorem nears_tick {ticks : Nat} (settling : Settling settings (ticks + 1) world)
    (retriesFit : settings.policy.maxRetries + 1 < Width.bound32)
    (inTime : InTime settings.policy (settings.tick (answer circumstances) world).2) :
    ∃ report after, settings.tick (answer circumstances) world = (some report, after) ∧
      Nears settings.policy world after ∧
      ∀ id record, LawfulStore.record? after.store id = some record →
        settings.policy.ticksLeft record ≤ ticks ∧
          (record.status.isTerminal = false → record.chain ∈ settings.chains.map (·.name)) := by
  have ⟨report, after, ticked, nears, reaches⟩ :=
    nears_runBatches settings.chains {} settling.steady retriesFit inTime
  refine ⟨report, after, ticked, nears, ?_⟩
  intro id record found
  rcases nears.records id with same | ⟨earlier, next, before, foundNext, chain, fewer⟩
  · have before := same.symm.trans found
    cases alive : record.status.isTerminal with
    | true =>
        rw [RetryPolicy.ticksLeft_of_terminal alive]
        exact ⟨Nat.zero_le _, nofun⟩
    | false =>
        rcases settling.alive id record before alive with ⟨configured, rested⟩
        have ⟨next, foundNext, _, fewer⟩ := reaches id record before alive configured rested
        cases found.symm.trans foundNext
        exact absurd fewer (Nat.lt_irrefl _)
  · cases found.symm.trans foundNext
    have alive : earlier.status.isTerminal = false := RetryPolicy.alive_of_ticksLeft fewer
    refine ⟨Nat.le_of_lt_succ (Nat.lt_of_lt_of_le fewer (settling.near id earlier before)), ?_⟩
    intro _
    rw [chain]
    exact (settling.alive id earlier before alive).1

theorem rounds_end (pauses : List Nat) (settling : Settling settings (pauses.length + 1) world)
    (retriesFit : settings.policy.maxRetries + 1 < Width.bound32)
    (long : ∀ pause ∈ pauses, settings.policy.backoff * Duration.nanosecondsPerSecond ≤ pause)
    (inTime : InTime settings.policy (rounds settings circumstances world pauses).2) :
    (∀ report ∈ (rounds settings circumstances world pauses).1, report.isSome) ∧
      Nears settings.policy world (rounds settings circumstances world pauses).2 ∧
      ∀ id record,
        LawfulStore.record? (rounds settings circumstances world pauses).2.store id = some record →
          record.status.isTerminal = true := by
  induction pauses generalizing world with
  | nil =>
      have ⟨report, after, ticked, nears, near⟩ := nears_tick settling retriesFit inTime
      unfold rounds
      rw [ticked]
      refine ⟨by simp, nears, fun id record found => ?_⟩
      exact RetryPolicy.isTerminal_of_ticksLeft (Nat.le_zero.mp (near id record found).1)
  | cons pause later induction =>
      have ⟨report, after, ticked, nears, near⟩ := nears_tick settling retriesFit
        (inTime.earlier (passes_rounds _))
      unfold rounds at inTime ⊢
      rw [ticked] at inTime ⊢
      have settles : Settling settings (later.length + 1) (after.elapse pause) :=
        { steady := nears.steady.elapse pause
          alive := fun id record found alive => by
            have goesOn := nears.steady.records id record found alive
            have paused : after.seconds + settings.policy.backoff ≤ (after.elapse pause).seconds :=
              seconds_elapse (long pause List.mem_cons_self)
            have rested := Nat.le_trans (Nat.add_le_add_right goesOn.active _) paused
            exact ⟨(near id record found).2 alive, fun _ => rested⟩
          near := fun id record found => (near id record found).1 }
      have ⟨reports, nearsOn, ended⟩ := induction settles
        (fun other among => long other (List.mem_cons_of_mem _ among)) inTime
      refine ⟨?_, (nears.elapse pause).trans nearsOn, ended⟩
      intro other among
      rcases List.mem_cons.mp among with rfl | behind
      · rfl
      · exact reports other behind

/-! ## Afterwards -/

structure Idles (before after : Calm σ) : Prop where
  store : after.store = before.store
  calls : after.calls = before.calls

omit [Store σ] [LawfulStore σ] in
theorem Idles.trans (first : Idles before between) (second : Idles between after) :
    Idles before after :=
  ⟨second.store.trans first.store, second.calls.trans first.calls⟩

structure Ended (world : Calm σ) : Prop where
  sound : LawfulStore.Sound world.store
  records : ∀ id record, LawfulStore.record? world.store id = some record →
    record.status.isTerminal = true

theorem Ended.of_idles (ended : Ended before) (idles : Idles before after) : Ended after where
  sound := idles.store ▸ ended.sound
  records := idles.store ▸ ended.records

theorem Ended.withStatus (ended : Ended world) {status : Status}
    (alive : status.isTerminal = false) (chain : Option String) :
    Store.withStatus world.store status chain = .ok [] := by
  have ⟨records, lists, mem⟩ := LawfulStore.withStatus_of_sound status chain ended.sound
  have none : records = [] := by
    rw [List.eq_nil_iff_forall_not_mem]
    intro record among
    rcases (mem record).mp among with ⟨found, isStatus, -⟩
    have terminal := ended.records _ record found
    rw [isStatus, alive] at terminal
    cases terminal
  rw [lists, none]

theorem Ended.idles_run (circumstances : Circumstances) (policy : RetryPolicy)
    (ended : Ended world) (phase : Phase) (chain : Option String) :
    ∃ after, Activity.run (answer circumstances) world (Batch.start phase policy chain) =
      (.summary {}, after) ∧ Idles world after := by
  refine ⟨(world.turn circumstances).turn circumstances, ?_, rfl, rfl⟩
  rw [Batch.run_start]
  dsimp only [answer, store_turn]
  rw [ended.withStatus (by cases phase <;> rfl)]
  dsimp only [store_turn]
  rw [ended.withStatus (by cases phase <;> rfl)]
  rfl

theorem Ended.idles_runBatches (circumstances : Circumstances) (policy : RetryPolicy)
    (ended : Ended world) (report : TickReport) (batches : List (Phase × String)) :
    ∃ report' after, ServiceSettings.runBatches (answer circumstances) policy report world batches =
      (some report', after) ∧ Idles world after := by
  induction batches generalizing world report with
  | nil => exact ⟨report, world, rfl, rfl, rfl⟩
  | cons batch rest induction =>
      rcases batch with ⟨phase, chain⟩
      have ⟨between, ran, idles⟩ := ended.idles_run circumstances policy phase (some chain)
      have ⟨report', after, finished, idlesOn⟩ :=
        induction (ended.of_idles idles) (report.addSummary phase {})
      refine ⟨report', after, ?_, idles.trans idlesOn⟩
      rw [ServiceSettings.runBatches, ran]
      exact finished

theorem Ended.idles_rounds (ended : Ended world) (pauses : List Nat) :
    Idles world (rounds settings circumstances world pauses).2 := by
  induction pauses generalizing world with
  | nil =>
      have ⟨report, after, ticked, idles⟩ :=
        ended.idles_runBatches circumstances settings.policy {} settings.batches
      unfold rounds
      rw [ServiceSettings.tick, ticked]
      exact idles
  | cons pause later induction =>
      have ⟨report, after, ticked, idles⟩ :=
        ended.idles_runBatches circumstances settings.policy {} settings.batches
      unfold rounds
      rw [ServiceSettings.tick, ticked]
      have paused : Idles world (after.elapse pause) := ⟨idles.store, idles.calls⟩
      exact paused.trans (induction (ended.of_idles paused))

end Calm

/-! ## The bound -/

/-- What a record must be like for the service to bring it to its end. The
version has room for the two writes of each attempt. -/
structure ServiceSettings.Handles (settings : ServiceSettings) (now : Nat) (record : Redemption) :
    Prop where
  configured : record.chain ∈ settings.chains.map (·.name)
  room : record.version + 2 * settings.policy.attemptsLeft record < Width.bound64
  unleased : ∀ expiry ∈ record.leaseExpiresAt, expiry ≤ now
  overdue : record.status = .pending ∨ record.status = .fetchFailed →
    record.dates.createdAt + settings.policy.attestationDeadline ≤ now
  rested : record.dates.lastActivityAt + settings.policy.backoff ≤ now

namespace Calm

variable {σ : Type} [Store σ] [LawfulStore σ] {circumstances : Circumstances} {world : Calm σ}

/-- No record outlives two ticks for every attempt that a phase allows, and
afterwards the service has nothing to do. -/
theorem redemptions_end (settings : ServiceSettings) (pauses : List Nat)
    (sound : LawfulStore.Sound world.store) (populated : Fleet.Populated world.store)
    (handles : ∀ id record, LawfulStore.record? world.store id = some record →
      record.status.isTerminal = false → settings.Handles world.seconds record)
    (retriesFit : settings.policy.maxRetries < Width.bound32 - 1)
    (enough : 2 * settings.policy.maxRetries + 2 ≤ pauses.length + 1)
    (long : ∀ pause ∈ pauses, settings.policy.backoff * Duration.nanosecondsPerSecond ≤ pause)
    (inTime : InTime settings.policy (rounds settings circumstances world pauses).2) :
    ∃ reports ended, rounds settings circumstances world pauses = (reports, ended) ∧
      (∀ report ∈ reports, report.isSome) ∧
      (∀ id, (LawfulStore.record? ended.store id).isSome =
        (LawfulStore.record? world.store id).isSome) ∧
      (∀ id record, LawfulStore.record? ended.store id = some record →
        record.status.isTerminal = true) ∧
      ∀ pause later,
        Idles ended (rounds settings circumstances (ended.elapse pause) later).2 := by
  have settling : Settling settings (pauses.length + 1) world :=
    { steady := ⟨sound, fun id record found alive =>
        have ⟨consistent, inRange⟩ := populated.stored found
        have handled := handles id record found alive
        { handled with
          consistent := consistent
          inRange := inRange
          active := Nat.le_of_add_right_le handled.rested }⟩
      alive := fun id record found alive =>
        have handled := handles id record found alive
        ⟨handled.configured, fun _ => handled.rested⟩
      near := fun id record _ => Nat.le_trans RetryPolicy.ticksLeft_le enough }
  have ⟨reports, nears, terminal⟩ :=
    rounds_end pauses settling (Nat.add_lt_of_lt_sub retriesFit) long inTime
  refine ⟨_, _, rfl, reports, fun id => ?_, terminal, fun pause later => ?_⟩
  · rcases nears.records id with same | ⟨record, next, found, foundNext, -⟩
    · rw [same]
    · rw [found, foundNext]
      rfl
  · have ended : Ended (rounds settings circumstances world pauses).2 :=
      ⟨nears.steady.sound, terminal⟩
    have paused : Idles (rounds settings circumstances world pauses).2
        ((rounds settings circumstances world pauses).2.elapse pause) := ⟨rfl, rfl⟩
    exact paused.trans ((ended.of_idles paused).idles_rounds later)

end Calm

namespace Calm.Sample

/-- One retry, so four ticks are enough. -/
def settings : ServiceSettings where
  chains := [⟨"sepolia", .evm⟩]
  policy := { maxRetries := 1 }
  pollMilliseconds := 60000

/-- The attestation is there at the second tick, the signer never is. -/
def silentSigner : Circumstances where
  duration _ := 100000000
  reply
    | answers, .fetch _ => if answers < 10 then none else some (.ok (.available [1]))
    | _, .submit _ _ => none

def observed : Redemption :=
  Redemption.observed "sepolia"
    ⟨"0x00112233445566778899aabbccddeeff00112233",
      ⟨"0x00112233445566778899aabbccddeeff00112233445566778899aabbccddeeff", 1, 2⟩, "0x76", 5,
      "0xa1"⟩ 0 0

def waiting : Calm MemoryStore where
  store := { records := [observed], distinct := by decide }
  clock := 100000 * Duration.nanosecondsPerSecond

def pauses : List Nat :=
  List.replicate 3 (60 * Duration.nanosecondsPerSecond)

theorem reachable_waiting : Fleet.Reachable waiting.store :=
  Fleet.reachable_of_moves Fleet.Sample.arrival (by decide +kernel)

theorem eq_observed_of_waiting {id : String} {record : Redemption}
    (found : LawfulStore.record? waiting.store id = some record) : record = observed :=
  List.mem_singleton.mp (MemoryStore.find?_eq_some_iff.mp found).1

theorem handles_observed : settings.Handles waiting.seconds observed where
  configured := by decide
  room := by decide
  unleased := nofun
  overdue _ := by decide
  rested := by decide

def endless : ServiceSettings :=
  { settings with policy := .endless }

theorem handles_observed_of_endless : endless.Handles waiting.seconds observed where
  configured := by decide
  room := by decide
  unleased := nofun
  overdue _ := by decide
  rested := by decide

end Calm.Sample

namespace Calm

/-- The fetch fails, is repeated, the submission fails twice, and the fourth
tick gives the redemption up. -/
theorem redemptions_end_of_silent_signer :
    ∃ reports ended,
      rounds Sample.settings Sample.silentSigner Sample.waiting Sample.pauses = (reports, ended) ∧
      ended.calls.length = 4 ∧
      (∀ id record, LawfulStore.record? ended.store id = some record →
        record.status.isTerminal = true) ∧
      ∀ pause later, Idles ended
        (rounds Sample.settings Sample.silentSigner (ended.elapse pause) later).2 := by
  have happened :
      let ended := (rounds Sample.settings Sample.silentSigner Sample.waiting Sample.pauses).2
      ended.calls.length = 4 ∧ ∀ phase ∈ [Phase.attestation, Phase.settlement],
        ended.seconds + Sample.settings.policy.holdSeconds (Sample.settings.policy.timeout phase) ≤
          Redemption.maxTime := by
    simp only [Sample.pauses, List.replicate, rounds, ServiceSettings.tick, Sample.settings,
      ServiceSettings.batches, ServiceSettings.runBatches, List.flatMap_cons, List.flatMap_nil,
      List.append_nil, Batch.run_start]
    decide +kernel
  have handles : ∀ id record, LawfulStore.record? Sample.waiting.store id = some record →
      record.status.isTerminal = false →
        Sample.settings.Handles Sample.waiting.seconds record := by
    intro id record found alive
    exact Sample.eq_observed_of_waiting found ▸ Sample.handles_observed
  have inTime : InTime Sample.settings.policy
      (rounds Sample.settings Sample.silentSigner Sample.waiting Sample.pauses).2 :=
    fun phase => happened.2 phase (by cases phase <;> simp)
  have ⟨reports, ended, ran, _, _, terminal, idles⟩ := redemptions_end Sample.settings Sample.pauses
    trivial Sample.reachable_waiting.populated handles (by decide) (by decide) (by decide) inTime
  refine ⟨reports, ended, ran, ?_, terminal, idles⟩
  have called := happened.1
  rw [ran] at called
  exact called

/-- Without a lease every tick breaks off at the first record that is due, and
nothing ever becomes of it. -/
theorem redemptions_wait_without_lease :
    let pauses := [60 * Duration.nanosecondsPerSecond]
    let ended := rounds Sample.endless Sample.silentSigner Sample.waiting pauses
    LawfulStore.Sound Sample.waiting.store ∧ Fleet.Populated Sample.waiting.store ∧
      (∀ id record, LawfulStore.record? Sample.waiting.store id = some record →
        record.status.isTerminal = false →
          Sample.endless.Handles Sample.waiting.seconds record) ∧
      Sample.endless.policy.maxRetries < Width.bound32 - 1 ∧
      2 * Sample.endless.policy.maxRetries + 2 ≤ pauses.length + 1 ∧
      (∀ pause ∈ pauses,
        Sample.endless.policy.backoff * Duration.nanosecondsPerSecond ≤ pause) ∧
      ended.1 = [none, none] ∧ ended.2.calls = [] ∧
      LawfulStore.record? ended.2.store "0xa1" = some Sample.observed ∧
      Sample.observed.status.isTerminal = false := by
  have happened :
      let ended := rounds Sample.endless Sample.silentSigner Sample.waiting
        [60 * Duration.nanosecondsPerSecond]
      ended.1 = [none, none] ∧ ended.2.calls = [] ∧
        ended.2.store.records = [Sample.observed] := by
    simp only [rounds, ServiceSettings.tick, Sample.endless, Sample.settings,
      ServiceSettings.batches, ServiceSettings.runBatches, List.flatMap_cons, List.flatMap_nil,
      List.append_nil, Batch.run_start]
    decide +kernel
  rcases happened with ⟨reports, silent, kept⟩
  refine ⟨trivial, Sample.reachable_waiting.populated, ?_, by decide, by decide, by decide,
    reports, silent, ?_, rfl⟩
  · intro id record found alive
    exact Sample.eq_observed_of_waiting found ▸ Sample.handles_observed_of_endless
  · refine MemoryStore.find?_eq_some_iff.mpr ⟨?_, rfl⟩
    rw [kept]
    exact List.mem_singleton_self _

end Calm

end RedemptionRelay
