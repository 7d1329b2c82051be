import Mathlib.Data.List.Perm.Basic
import Mathlib.Data.Option.NAry
import RedemptionRelay.Proofs.Rough.Still
import RedemptionRelay.Proofs.Service

/-! # Chains do not touch each other

In still weather a tick does on each chain what it would do there if there were
no other chains: it reads and writes the records of that chain only, and adds
what it has counted there to the report. So the order of the chains makes no
difference, and neither does a chain that cannot be read.
-/

namespace RedemptionRelay

/-! ## Reports -/

namespace TickReport

def add (left right : TickReport) : TickReport where
  attestations := left.attestations.add right.attestations
  settlements := left.settlements.add right.settlements
  failedBatches := left.failedBatches + right.failedBatches
  fatalBatches := left.fatalBatches + right.fatalBatches

theorem add_assoc (first second third : TickReport) :
    (first.add second).add third = first.add (second.add third) := by
  simp [add, Summary.add, Nat.add_assoc]

theorem add_left_comm (first second third : TickReport) :
    first.add (second.add third) = second.add (first.add third) := by
  simp [add, Summary.add, Nat.add_left_comm]

theorem addBatch?_eq (report : TickReport) (phase : Phase) (result : BatchResult) :
    report.addBatch? phase result = (addBatch? {} phase result).map report.add := by
  cases result with
  | overflow => rfl
  | unreadable error =>
      simp [addBatch?, addFailure, add, Summary.add]
  | summary summary =>
      cases phase <;> simp [addBatch?, addSummary, add, Summary.add]

theorem overflow_of_addBatch? {report : TickReport} {phase : Phase} {result : BatchResult}
    (broken : report.addBatch? phase result = none) : result = .overflow := by
  cases result with
  | overflow => rfl
  | summary | unreadable => cases broken

theorem ne_overflow_of_addBatch? {report next : TickReport} {phase : Phase}
    {result : BatchResult} (added : report.addBatch? phase result = some next) :
    result ≠ .overflow := by
  rintro rfl
  cases added

end TickReport

def Phase.both : List Phase :=
  [.attestation, .settlement]

namespace ServiceSettings

theorem batches_eq (settings : ServiceSettings) :
    settings.batches =
      (settings.chains.map (·.name)).flatMap fun chain => Phase.both.map (·, chain) := by
  rw [List.flatMap_map]
  rfl

variable {World : Type} (surroundings : Surroundings World) (policy : RetryPolicy)

theorem runBatches_eq (report : TickReport) (world : World) (batches : List (Phase × String)) :
    runBatches surroundings policy report world batches =
      ((runBatches surroundings policy {} world batches).1.map report.add,
        (runBatches surroundings policy {} world batches).2) := by
  induction batches generalizing report world with
  | nil => rfl
  | cons batch rest induction =>
      rw [runBatches_step, runBatches_step]
      dsimp only
      rw [TickReport.addBatch?_eq report]
      cases TickReport.addBatch? {} batch.1 _ with
      | none => rfl
      | some added =>
          dsimp only [Option.map_some]
          rw [induction (report.add added), induction added]
          simp only [Option.map_map]
          refine congrArg (·, _) (congrArg (Option.map · _) (funext fun later => ?_))
          exact TickReport.add_assoc report added later

end ServiceSettings

namespace Weather

variable {weather : Weather} {policy : RetryPolicy} {moment : Nat}

def course (weather : Weather) (policy : RetryPolicy) (moment : Nat) (phases : List Phase)
    (record : Redemption) : Redemption :=
  phases.foldl (fun record phase => weather.turn phase policy moment record) record

theorem chain_course {phases : List Phase} {record : Redemption} :
    (weather.course policy moment phases record).chain = record.chain := by
  induction phases generalizing record with
  | nil => rfl
  | cons phase phases induction => exact induction.trans chain_turn

theorem course_still {faults : Status → Option String → Option StoreError}
    {reply : (call : Call) → Option call.Reply} {phases : List Phase} {record : Redemption}
    (readable : ∀ phase,
      (still faults reply).readFault? phase (some record.chain) moment = none) :
    (still faults reply).course policy moment phases record =
      (still (fun _ _ => none) reply).course policy moment phases record := by
  induction phases generalizing record with
  | nil => rfl
  | cons phase phases induction =>
      unfold course
      rw [List.foldl_cons, List.foldl_cons, turn_still (readable phase)]
      refine induction fun other => ?_
      rw [chain_turn]
      exact readable other

def fails (weather : Weather) (moment : Nat) (batch : Phase × String) : Bool :=
  (weather.readFault? batch.1 (some batch.2) moment).isSome

/-- The batch cannot read its records, and the store is not just out of reach. -/
def failsForGood (weather : Weather) (moment : Nat) (batch : Phase × String) : Bool :=
  match weather.readFault? batch.1 (some batch.2) moment with
  | none | some (.connection _) | some (.database _) => false
  | some _ => true

/-- These batches have added their failures to the report. -/
structure AddsFailures (weather : Weather) (moment : Nat) (batches : List (Phase × String))
    (before after : TickReport) : Prop where
  failed : after.failedBatches = before.failedBatches + batches.countP (weather.fails moment)
  fatal : after.fatalBatches = before.fatalBatches + batches.countP (weather.failsForGood moment)

theorem AddsFailures.append {first second : List (Phase × String)}
    {before between after : TickReport} (earlier : AddsFailures weather moment first before between)
    (later : AddsFailures weather moment second between after) :
    AddsFailures weather moment (first ++ second) before after where
  failed := by rw [later.failed, earlier.failed, List.countP_append, Nat.add_assoc]
  fatal := by rw [later.fatal, earlier.fatal, List.countP_append, Nat.add_assoc]

end Weather

namespace Rough

variable {σ : Type} [Store σ] [LawfulStore σ]
  {faults : Status → Option String → Option StoreError}
  {reply : (call : Call) → Option call.Reply} {policy : RetryPolicy} {chain : String}
  {world : Rough σ} {weather : Weather} {report : TickReport}

omit [LawfulStore σ] in
theorem addsFailures_of_verdict {phase : Phase} {next : TickReport}
    (added : report.addBatch? phase (world.verdict weather phase policy chain) = some next) :
    weather.AddsFailures world.clock [(phase, chain)] report next := by
  cases fault : weather.readFault? phase (some chain) world.clock with
  | none =>
      have kept : next.failedBatches = report.failedBatches ∧
          next.fatalBatches = report.fatalBatches := by
        unfold verdict at added
        rw [fault] at added
        dsimp only at added
        split at added
        · cases added
          cases phase <;> exact ⟨rfl, rfl⟩
        · cases added
      constructor <;> simp [Weather.fails, Weather.failsForGood, fault, kept]
  | some error =>
      unfold verdict at added
      rw [fault] at added
      cases added
      constructor
      · simp [TickReport.addFailure, Weather.fails, fault]
      · cases error <;>
          simp [TickReport.addFailure, StoreError.isUnavailable, Weather.failsForGood, fault]

/-! ## The batches of one chain -/

/-- The batches of these phases have been through the chain, one after the other. -/
structure Visited (weather : Weather) (policy : RetryPolicy) (chain : String)
    (phases : List Phase) (report : TickReport) (before : Rough σ)
    (result : Option TickReport × Rough σ) : Prop where
  sound : LawfulStore.Sound result.2.store
  clock : result.2.clock = before.clock
  others : ∀ id, (∀ record ∈ LawfulStore.record? before.store id, record.chain ≠ chain) →
    LawfulStore.record? result.2.store id = LawfulStore.record? before.store id
  course : result.1.isSome → ∀ id, ∀ record ∈ LawfulStore.record? before.store id,
    record.chain = chain →
      LawfulStore.record? result.2.store id =
        some (weather.course policy before.clock phases record)
  sameOn : result.1.isSome → ∀ elsewhere, elsewhere ≠ chain → SameOn elsewhere before result.2
  failures : ∀ final, result.1 = some final →
    weather.AddsFailures before.clock (phases.map (·, chain)) report final
  returns : (∀ phase, InTime policy phase before) → result.1.isSome

theorem Visited.broken {phase : Phase} {phases : List Phase} {result : BatchResult × Rough σ}
    (turned : Turned (.still faults reply) phase policy chain world result)
    (breaksOff : result.1 = .overflow) :
    Visited (.still faults reply) policy chain (phase :: phases) report world (none, result.2) where
  sound := turned.sound
  clock := turned.clock
  others := turned.others
  course := nofun
  sameOn := nofun
  failures := nofun
  returns inTime := absurd (turned.answer.symm.trans breaksOff) (verdict_ne_overflow (inTime phase))

theorem Visited.cons {phase : Phase} {phases : List Phase} {answer : BatchResult × Rough σ}
    {next : TickReport} {result : Option TickReport × Rough σ}
    (visited : Visited weather policy chain phases next answer.2 result)
    (turned : Turned weather phase policy chain world answer)
    (added : report.addBatch? phase answer.1 = some next) :
    Visited weather policy chain (phase :: phases) report world result := by
  have goesOn := TickReport.ne_overflow_of_addBatch? added
  refine ⟨visited.sound, visited.clock.trans turned.clock, ?_, ?_, ?_, ?_, ?_⟩
  · intro id strange
    refine (visited.others id ?_).trans (turned.others id strange)
    rw [turned.others id strange]
    exact strange
  · intro ended id record found ofChain
    have first := turned.turned goesOn id record found ofChain
    rw [visited.course ended id _ first (Weather.chain_turn.trans ofChain), turned.clock]
    rfl
  · intro ended elsewhere different
    exact (turned.sameOn goesOn different).trans (visited.sameOn ended elsewhere different)
  · intro final isFinal
    rw [turned.answer] at added
    have later := visited.failures final isFinal
    rw [turned.clock] at later
    exact (addsFailures_of_verdict added).append later
  · intro inTime
    refine visited.returns fun other => ?_
    unfold InTime
    rw [seconds_of_clock turned.clock]
    exact inTime other

variable [ListsOnce σ]

theorem visited_run (phases : List Phase) (sound : LawfulStore.Sound world.store)
    (prepared : world.Prepared (2 * phases.length) chain)
    (retriesFit : policy.maxRetries + 1 < Width.bound32) (inTime : world.seconds < Width.bound64) :
    Visited (.still faults reply) policy chain phases report world
      (ServiceSettings.runBatches (answer (.still faults reply)) policy report world
        (phases.map (·, chain))) := by
  induction phases generalizing report world with
  | nil =>
      exact
        { sound := sound
          clock := rfl
          others := fun _ _ => rfl
          course := fun _ _ _ found _ => found
          sameOn := fun _ _ _ => .refl
          failures := by
            rintro final ⟨⟩
            exact ⟨rfl, rfl⟩
          returns := fun _ => rfl }
  | cons phase phases induction =>
      have turned : Turned (.still faults reply) phase policy chain world _ :=
        turned_run sound prepared retriesFit inTime
      rw [List.map_cons, ServiceSettings.runBatches_step]
      dsimp only
      cases added : report.addBatch? phase _ with
      | none => exact .broken turned (TickReport.overflow_of_addBatch? added)
      | some next =>
          have goesOn := TickReport.ne_overflow_of_addBatch? added
          have preparedAfter := turned.prepared goesOn prepared retriesFit inTime
          have inTimeAfter := inTime_of_clock turned.clock inTime
          have visited := @induction _ next turned.sound preparedAfter inTimeAfter
          exact visited.cons turned added

theorem SameOn.runBatches {left right : Rough σ} (phases : List Phase)
    (same : SameOn chain left right) (leftSound : LawfulStore.Sound left.store)
    (rightSound : LawfulStore.Sound right.store)
    (prepared : left.Prepared (2 * phases.length) chain)
    (retriesFit : policy.maxRetries + 1 < Width.bound32) (inTime : left.seconds < Width.bound64) :
    (ServiceSettings.runBatches (answer (.still faults reply)) policy report left
        (phases.map (·, chain))).1 =
      (ServiceSettings.runBatches (answer (.still faults reply)) policy report right
        (phases.map (·, chain))).1 := by
  induction phases generalizing report left right with
  | nil => rfl
  | cons phase phases induction =>
      have rightInTime : right.seconds < Width.bound64 :=
        inTime_of_clock same.clock.symm inTime
      have leftTurned : Turned (.still faults reply) phase policy chain left _ :=
        turned_run leftSound prepared retriesFit inTime
      have rightTurned : Turned (.still faults reply) phase policy chain right _ :=
        turned_run rightSound (same.prepared prepared) retriesFit rightInTime
      have sameAnswer := leftTurned.answer.trans
        ((same.verdict leftSound rightSound).trans rightTurned.answer.symm)
      rw [List.map_cons, ServiceSettings.runBatches_step, ServiceSettings.runBatches_step]
      dsimp only
      rw [← sameAnswer]
      cases added : report.addBatch? phase _ with
      | none => rfl
      | some next =>
          have leftGoesOn := TickReport.ne_overflow_of_addBatch? added
          have rightGoesOn := sameAnswer ▸ leftGoesOn
          exact induction (same.turned leftTurned rightTurned leftGoesOn rightGoesOn)
            leftTurned.sound rightTurned.sound
            (leftTurned.prepared leftGoesOn prepared retriesFit inTime)
            (inTime_of_clock leftTurned.clock inTime)

/-! ## All chains -/

def share (weather : Weather) (policy : RetryPolicy) (world : Rough σ) (chain : String) :
    Option TickReport :=
  (ServiceSettings.runBatches (answer weather) policy {} world (Phase.both.map (·, chain))).1

def shares (weather : Weather) (policy : RetryPolicy) (world : Rough σ) (chains : List String) :
    Option TickReport :=
  chains.foldr
    (fun chain total => Option.map₂ TickReport.add (world.share weather policy chain) total)
    (some {})

omit [LawfulStore σ] [ListsOnce σ] in
theorem shares_of_perm {chains other : List String} (perm : chains.Perm other) :
    world.shares weather policy chains = world.shares weather policy other := by
  unfold shares
  have comm : LeftCommutative fun chain total =>
      Option.map₂ TickReport.add (world.share weather policy chain) total :=
    ⟨fun _ _ _ => Option.map₂_left_comm TickReport.add_left_comm⟩
  exact perm.foldr_eq _

theorem shares_of_sameOn {left right : Rough σ} {chains : List String}
    (same : ∀ chain ∈ chains, SameOn chain left right) (leftSound : LawfulStore.Sound left.store)
    (rightSound : LawfulStore.Sound right.store)
    (prepared : ∀ chain ∈ chains, left.Prepared 4 chain)
    (retriesFit : policy.maxRetries + 1 < Width.bound32) (inTime : left.seconds < Width.bound64) :
    left.shares (.still faults reply) policy chains =
      right.shares (.still faults reply) policy chains := by
  unfold shares
  refine List.foldr_ext _ _ _ fun chain among total => ?_
  have sameShare : left.share (.still faults reply) policy chain =
      right.share (.still faults reply) policy chain :=
    (same chain among).runBatches Phase.both leftSound rightSound (prepared chain among) retriesFit
      inTime
  rw [sameShare]

/-- A tick has been to these chains. -/
structure Toured (weather : Weather) (policy : RetryPolicy) (chains : List String)
    (report : TickReport) (before : Rough σ) (result : Option TickReport × Rough σ) : Prop where
  reported : result.1 = (before.shares weather policy chains).map report.add
  others : ∀ id, (∀ record ∈ LawfulStore.record? before.store id, record.chain ∉ chains) →
    LawfulStore.record? result.2.store id = LawfulStore.record? before.store id
  course : result.1.isSome → ∀ id, ∀ record ∈ LawfulStore.record? before.store id,
    record.chain ∈ chains →
      LawfulStore.record? result.2.store id =
        some (weather.course policy before.clock Phase.both record)
  failures : ∀ final, result.1 = some final →
    weather.AddsFailures before.clock (chains.flatMap fun chain => Phase.both.map (·, chain))
      report final
  returns : (∀ phase, InTime policy phase before) → result.1.isSome

omit [ListsOnce σ] in
theorem Toured.broken {chains : List String} {after : Rough σ}
    (visited : Visited weather policy chain Phase.both report world (none, after))
    (own : none = (world.share weather policy chain).map report.add) :
    Toured weather policy (chain :: chains) report world (none, after) where
  reported := by
    have nothing := Option.map_eq_none_iff.mp own.symm
    show none = Option.map _ (Option.map₂ _ (world.share weather policy chain) _)
    rw [nothing]
    rfl
  others id strange := by
    refine visited.others id fun record there ofChain => ?_
    exact strange record there (ofChain ▸ List.mem_cons_self)
  course := nofun
  failures := nofun
  returns inTime := visited.returns inTime

omit [ListsOnce σ] in
theorem Toured.cons {chains : List String} {next : TickReport} {after : Rough σ}
    {result : Option TickReport × Rough σ}
    (toured : Toured weather policy chains next after result)
    (visited : Visited weather policy chain Phase.both report world (some next, after))
    (own : some next = (world.share weather policy chain).map report.add)
    (sameShares : after.shares weather policy chains = world.shares weather policy chains)
    (distinct : chain ∉ chains) :
    Toured weather policy (chain :: chains) report world result where
  reported := by
    rcases Option.map_eq_some_iff.mp own.symm with ⟨first, isFirst, rfl⟩
    rw [toured.reported, sameShares]
    show _ = Option.map _ (Option.map₂ _ (world.share weather policy chain) _)
    rw [isFirst]
    show _ = Option.map _ (Option.map₂ _ _ (world.shares weather policy chains))
    cases world.shares weather policy chains with
    | none => rfl
    | some total => exact congrArg some (TickReport.add_assoc report first total)
  others id strange := by
    have before := visited.others id fun record there ofChain =>
      strange record there (ofChain ▸ List.mem_cons_self)
    refine (toured.others id ?_).trans before
    rw [before]
    exact fun record there among => strange record there (List.mem_cons_of_mem _ among)
  course ended id record found among := by
    rcases List.mem_cons.mp among with ofChain | among
    · have first := visited.course rfl id record found ofChain
      refine (toured.others id ?_).trans first
      rw [first]
      rintro _ ⟨⟩
      rw [Weather.chain_course, ofChain]
      exact distinct
    · have different : record.chain ≠ chain := fun same => distinct (same ▸ among)
      have there := ((visited.sameOn rfl _ different).records id record rfl).mp found
      rw [toured.course ended id record there among, show after.clock = _ from visited.clock]
  failures final isFinal := by
    have later := toured.failures final isFinal
    rw [show after.clock = _ from visited.clock] at later
    exact (visited.failures next rfl).append later
  returns inTime := by
    refine toured.returns fun phase => ?_
    unfold InTime
    rw [seconds_of_clock visited.clock]
    exact inTime phase

theorem toured_run {chains : List String} (distinct : chains.Nodup)
    (sound : LawfulStore.Sound world.store) (prepared : ∀ chain ∈ chains, world.Prepared 4 chain)
    (retriesFit : policy.maxRetries + 1 < Width.bound32) (inTime : world.seconds < Width.bound64) :
    Toured (.still faults reply) policy chains report world
      (ServiceSettings.runBatches (answer (.still faults reply)) policy report world
        (chains.flatMap fun chain => Phase.both.map (·, chain))) := by
  induction chains generalizing report world with
  | nil =>
      exact
        { reported := rfl
          others := fun _ _ => rfl
          course := fun _ _ _ _ among => nomatch among
          failures := by
            rintro final ⟨⟩
            exact ⟨rfl, rfl⟩
          returns := fun _ => rfl }
  | cons chain chains induction =>
      have visited : Visited (.still faults reply) policy chain Phase.both report world _ :=
        visited_run Phase.both sound (prepared chain List.mem_cons_self) retriesFit inTime
      have own := congrArg Prod.fst
        (ServiceSettings.runBatches_eq (answer (.still faults reply)) policy report world
          (Phase.both.map (·, chain)))
      have alone := List.nodup_cons.mp distinct
      rw [List.flatMap_cons, ServiceSettings.runBatches_append]
      revert visited own
      rcases ServiceSettings.runBatches (answer (.still faults reply)) policy report world
        (Phase.both.map (·, chain)) with ⟨_ | next, after⟩
      · exact fun visited own => .broken visited own
      · intro visited own
        have sameOn (other : String) (among : other ∈ chains) : SameOn other world after :=
          visited.sameOn rfl other fun same => alone.1 (same ▸ among)
        have preparedHere (other : String) (among : other ∈ chains) : world.Prepared 4 other :=
          prepared other (List.mem_cons_of_mem _ among)
        have preparedAfter (other : String) (among : other ∈ chains) : after.Prepared 4 other :=
          (sameOn other among).prepared (preparedHere other among)
        have inTimeAfter := inTime_of_clock visited.clock inTime
        have toured := @induction after next alone.2 visited.sound preparedAfter inTimeAfter
        exact toured.cons visited own
          (shares_of_sameOn sameOn sound visited.sound preparedHere retriesFit inTime).symm alone.1

omit [ListsOnce σ] in
theorem Toured.records {chains : List String} {result : Option TickReport × Rough σ}
    (toured : Toured weather policy chains report world result) (ended : result.1.isSome)
    (id : String) :
    LawfulStore.record? result.2.store id = (LawfulStore.record? world.store id).map fun record =>
      if record.chain ∈ chains then weather.course policy world.clock Phase.both record
      else record := by
  cases found : LawfulStore.record? world.store id with
  | none =>
      refine (toured.others id fun record there => ?_).trans found
      rw [found] at there
      cases there
  | some record =>
      rw [Option.map_some]
      split
      · next among => exact toured.course ended id record found among
      · next strange =>
          refine (toured.others id ?_).trans found
          rw [found]
          rintro other ⟨⟩
          exact strange

/-! ## Ticks -/

def tick (settings : ServiceSettings) (faults : Status → Option String → Option StoreError)
    (reply : (call : Call) → Option call.Reply) (world : Rough σ) :
    Option TickReport × Rough σ :=
  settings.tick (answer (.still faults reply)) world

/-- How chains stay apart, whatever can be read and whatever the services say. -/
structure Apart (settings : ServiceSettings) (reply : (call : Call) → Option call.Reply)
    (world : Rough σ) : Prop where
  /-- A tick only breaks off at the end of time. -/
  returns : ∀ faults, (∀ phase, InTime settings.policy phase world) →
    (world.tick settings faults reply).1.isSome
  /-- Nothing happens off the chains of the service. -/
  unconfigured : ∀ faults id,
    (∀ record ∈ LawfulStore.record? world.store id, record.chain ∉ settings.chains.map (·.name)) →
      LawfulStore.record? (world.tick settings faults reply).2.store id =
        LawfulStore.record? world.store id
  reordered : ∀ faults (other : ServiceSettings), other.policy = settings.policy →
    other.chains.Perm settings.chains →
      (world.tick other faults reply).1 = (world.tick settings faults reply).1 ∧
        ((world.tick settings faults reply).1.isSome → ∀ id,
          LawfulStore.record? (world.tick other faults reply).2.store id =
            LawfulStore.record? (world.tick settings faults reply).2.store id)
  /-- Where a chain can be read, the failures on other chains make no difference. -/
  unaffected : ∀ faults, (world.tick settings faults reply).1.isSome →
    (world.tick settings (fun _ _ => none) reply).1.isSome →
      ∀ id, ∀ record ∈ LawfulStore.record? world.store id,
        (∀ phase, (Weather.still faults reply).readFault? phase (some record.chain) world.clock =
          none) →
          LawfulStore.record? (world.tick settings faults reply).2.store id =
            LawfulStore.record? (world.tick settings (fun _ _ => none) reply).2.store id
  counted : ∀ faults report, (world.tick settings faults reply).1 = some report →
    report.failedBatches =
        settings.batches.countP (Weather.fails (.still faults reply) world.clock) ∧
      report.fatalBatches =
        settings.batches.countP (Weather.failsForGood (.still faults reply) world.clock)

theorem toured_tick {settings : ServiceSettings} (distinct : (settings.chains.map (·.name)).Nodup)
    (sound : LawfulStore.Sound world.store) (populated : Fleet.Populated world.store)
    (room : ∀ id, ∀ record ∈ LawfulStore.record? world.store id,
      record.version + 4 < Width.bound64)
    (retriesFit : settings.policy.maxRetries < Width.bound32 - 1)
    (inTime : world.seconds < Width.bound64) :
    Toured (.still faults reply) settings.policy (settings.chains.map (·.name)) {} world
      (world.tick settings faults reply) := by
  have prepared (chain : String) (_ : chain ∈ settings.chains.map (·.name)) :
      world.Prepared 4 chain := by
    intro id record found _
    rcases populated id record found with ⟨store, reachable, there⟩
    exact reachable.ready there (room id record found)
  unfold tick ServiceSettings.tick
  rw [ServiceSettings.batches_eq]
  exact toured_run distinct sound prepared (Nat.add_lt_of_lt_sub retriesFit) inTime

/-- The chains of a tick have nothing to do with each other. -/
theorem chains_apart {settings : ServiceSettings}
    (distinct : (settings.chains.map (·.name)).Nodup) (sound : LawfulStore.Sound world.store)
    (populated : Fleet.Populated world.store)
    (room : ∀ id, ∀ record ∈ LawfulStore.record? world.store id,
      record.version + 4 < Width.bound64)
    (retriesFit : settings.policy.maxRetries < Width.bound32 - 1)
    (inTime : world.seconds < Width.bound64) (reply : (call : Call) → Option call.Reply) :
    Apart settings reply world := by
  have toured (faults) : Toured (.still faults reply) settings.policy _ {} world _ :=
    toured_tick distinct sound populated room retriesFit inTime
  refine ⟨fun faults => (toured faults).returns, fun faults => (toured faults).others, ?_, ?_, ?_⟩
  · intro faults other samePolicy perm
    have names : (other.chains.map (·.name)).Perm (settings.chains.map (·.name)) := perm.map _
    have otherToured : Toured (.still faults reply) other.policy (other.chains.map (·.name)) {}
        world _ :=
      toured_tick (names.nodup_iff.mpr distinct) sound populated room (samePolicy ▸ retriesFit)
        inTime
    rw [samePolicy] at otherToured
    have sameReport := otherToured.reported
    rw [shares_of_perm names, ← (toured faults).reported] at sameReport
    refine ⟨sameReport, fun ended id => ?_⟩
    rw [otherToured.records (sameReport ▸ ended), (toured faults).records ended]
    simp only [names.mem_iff]
  · intro faults ended fairEnded id record found readable
    rw [(toured faults).records ended, (toured _).records fairEnded,
      show LawfulStore.record? world.store id = some record from found, Option.map_some,
      Option.map_some, Weather.course_still readable]
  · intro faults report isReport
    have failures := (toured faults).failures report isReport
    rw [← ServiceSettings.batches_eq] at failures
    exact ⟨failures.failed.trans (Nat.zero_add _), failures.fatal.trans (Nat.zero_add _)⟩

end Rough

/-! ## Two chains -/

namespace Rough.Sample

def twoChains : ServiceSettings where
  chains := [⟨"sepolia", .evm⟩, ⟨"holesky", .evm⟩]
  policy := {}
  pollMilliseconds := 1000

def elsewhere : Redemption :=
  { second with chain := "holesky" }

def bothChains : Rough MemoryStore where
  store := { records := [first, elsewhere], distinct := by decide }
  clock := Duration.nanosecondsPerSecond

theorem reachable_bothChains : Fleet.Reachable bothChains.store :=
  Fleet.reachable_of_moves
    (Fleet.Sample.arrival ++ .pass Duration.nanosecondsPerSecond ::
      .launchIntake twoChains.listener { secondRaw with chain := "holesky" } ::
        List.replicate 3 (.act 1 .proceed))
    (by decide +kernel)

def spoilt (_ : Status) (chain : Option String) : Option StoreError :=
  if chain = some "holesky" then some (.invalidData "status") else none

def reply : (call : Call) → Option call.Reply
  | .fetch _ => some (.ok (.available [1]))
  | .submit _ _ => none

end Rough.Sample

namespace Rough

/-- The failures of one chain are counted, and the record of the other one fares
as it would have fared anyway. -/
theorem chains_apart_of_spoilt_chain :
    let fair := Sample.bothChains.tick Sample.twoChains (fun _ _ => none) Sample.reply
    let foul := Sample.bothChains.tick Sample.twoChains Sample.spoilt Sample.reply
    Apart Sample.twoChains Sample.reply Sample.bothChains ∧
      (∃ report, foul.1 = some report ∧ (report.failedBatches, report.fatalBatches) = (2, 2)) ∧
      LawfulStore.record? foul.2.store "0xa1" = LawfulStore.record? fair.2.store "0xa1" := by
  have room : ∀ record ∈ [Sample.first, Sample.elsewhere], record.version + 4 < Width.bound64 := by
    decide
  have apart : Apart Sample.twoChains Sample.reply Sample.bothChains :=
    chains_apart (by decide) trivial Sample.reachable_bothChains.populated
      (fun _ record found => room record (MemoryStore.find?_eq_some_iff.mp found).1) (by decide)
      (by decide)
      Sample.reply
  have inTime (phase : Phase) : InTime Sample.twoChains.policy phase Sample.bothChains := by
    unfold InTime
    cases phase <;> decide
  have foulEnds := apart.returns Sample.spoilt inTime
  refine ⟨apart, ?_, ?_⟩
  · rcases Option.isSome_iff_exists.mp foulEnds with ⟨report, isReport⟩
    rcases apart.counted _ report isReport with ⟨failed, fatal⟩
    refine ⟨report, isReport, ?_⟩
    rw [failed, fatal]
    decide
  · refine apart.unaffected _ foulEnds (apart.returns _ inTime) "0xa1" Sample.first ?_ ?_
    · decide
    · intro phase
      cases phase <;> rfl

end Rough

/-! ## Without leases -/

namespace Rough.Sample

def endless : ServiceSettings :=
  { twoChains with policy := .endless }

def exhausted : Redemption :=
  let error := "attestation fetch timed out after 30s"
  { first with
    attestation := .fetchFailed
    status := .fetchFailed
    error := some error
    retryCount := 1
    version := 2
    dates := { first.dates with lastActivityAt := 1 }
    logs := first.logs ++ [⟨1, "attestation fetch failed (attempt 1): " ++ error⟩] }

/-- One record is given up next, the other one is due. -/
def worn : Rough MemoryStore where
  store := { records := [exhausted, elsewhere], distinct := by decide }
  clock := Duration.nanosecondsPerSecond

theorem reachable_worn : Fleet.Reachable worn.store :=
  Fleet.reachable_of_moves
    (Fleet.Sample.arrival ++ .pass Duration.nanosecondsPerSecond ::
      .launchIntake twoChains.listener { secondRaw with chain := "holesky" } ::
        List.replicate 3 (.act 1 .proceed) ++
          .launchBatch .attestation {} (some "sepolia") :: Fleet.Sample.claim 2 ++ .act 2 .call ::
            Fleet.Sample.conclusion 2 fun _ => none)
    (by decide +kernel)

end Rough.Sample

namespace Rough

/-- Without a lease a tick breaks off at the first record that is due. So the
chains before it are attended to, and those behind it are not. -/
theorem chains_matter_without_lease :
    let other := { Sample.endless with chains := Sample.endless.chains.reverse }
    let ticked := Sample.worn.tick Sample.endless (fun _ _ => none) Sample.reply
    let otherTicked := Sample.worn.tick other (fun _ _ => none) Sample.reply
    (Sample.endless.chains.map (·.name)).Nodup ∧ LawfulStore.Sound Sample.worn.store ∧
      Fleet.Populated Sample.worn.store ∧
      Sample.endless.policy.maxRetries < Width.bound32 - 1 ∧
      other.chains.Perm Sample.endless.chains ∧
      (ticked.1, otherTicked.1) = (none, none) ∧
      (LawfulStore.record? ticked.2.store "0xa1").map (·.status) = some .failed ∧
      (LawfulStore.record? otherTicked.2.store "0xa1").map (·.status) = some .fetchFailed := by
  refine ⟨by decide, trivial, Sample.reachable_worn.populated, by decide, List.reverse_perm _, ?_⟩
  simp only [tick, ServiceSettings.tick, Sample.endless, Sample.twoChains, ServiceSettings.batches,
    List.reverse_cons, List.reverse_nil, List.nil_append, List.cons_append,
    ServiceSettings.runBatches, List.flatMap_cons, List.flatMap_nil, List.append_nil,
    Batch.run_start]
  decide +kernel

end Rough

end RedemptionRelay
