import RedemptionRelay.Proofs.Calm
import RedemptionRelay.Proofs.Chain.Adaptation
import RedemptionRelay.Proofs.Course

/-! # What is kept of the events

A listener that takes in one event after the other keeps a record for every
transaction that requests a redemption. The hash of the transaction is all that
tells requests apart: the first request with a hash is the one that is kept, and
what is already there stays as it is.
-/

namespace RedemptionRelay

theorem Redemption.inRange_observed (chain : String) {event : Event} {now logged : Nat}
    (inRange : event.InRange) (nowFits : now < Width.bound64) (loggedFits : logged < Width.bound64) :
    (observed chain event now logged).InRange := by
  refine ⟨inRange, (by decide : 0 < Width.bound32), by simp [observed, log],
    (by decide : 0 < Width.bound64),
    ⟨nowFits, by simp [observed, log], by simp [observed, log], by simp [observed, log], nowFits⟩,
    ?_⟩
  simp [observed, log, logCapacity, loggedFits]

/-! ## Requests by their identifier -/

def LawfulStore.request? {σ : Type} [Store σ] [LawfulStore σ] (store : σ) (id : String) :
    Option (String × Event) :=
  (LawfulStore.record? store id).map fun record => (record.chain, record.event)

namespace Listener

theorem inRange_of_request {listener : Listener} {raw : RawEvent} {event : Event}
    (accepted : listener.request raw = .ok event) : event.InRange := by
  unfold request at accepted
  split at accepted
  · cases accepted
  · split at accepted
    · next adapted => exact Except.ok.inj accepted ▸ ChainKind.inRange_of_adapt adapted
    · cases accepted

def reports? (listener : Listener) (id : String) (raw : RawEvent) : Option (String × Event) :=
  match listener.request raw with
  | .ok event => if event.sourceTxHash = id then some (raw.chain, event) else none
  | .error _ => none

def outcome (listener : Listener) (isTaken : String → Bool) (raw : RawEvent) : IntakeOutcome :=
  match listener.request raw with
  | .ok event =>
      if isTaken event.sourceTxHash then .duplicate event.sourceTxHash
      else .created event.sourceTxHash
  | .error reason => .skipped reason

variable {σ : Type} [Store σ] [LawfulStore σ]

/-- The request under an identifier after these events: the stored one, or else
the first of them. -/
def known? (listener : Listener) (store : σ) (raws : List RawEvent) (id : String) :
    Option (String × Event) :=
  (LawfulStore.request? store id).or (raws.findSome? (listener.reports? id))

end Listener

namespace Calm

variable {σ : Type} [Store σ]

def takeIn (circumstances : Circumstances) (listener : Listener) (world : Calm σ)
    (raw : RawEvent) : IntakeResult × Calm σ :=
  Activity.run (answer circumstances) world (Intake.start listener raw)

def takeInAll (circumstances : Circumstances) (listener : Listener) (world : Calm σ) :
    List RawEvent → List IntakeResult × Calm σ
  | [] => ([], world)
  | raw :: later =>
      let (result, world) := world.takeIn circumstances listener raw
      let (results, world) := takeInAll circumstances listener world later
      (result :: results, world)

variable {circumstances : Circumstances} {listener : Listener} {world : Calm σ}

theorem clock_le_takeInAll (raws : List RawEvent) :
    world.clock ≤ (world.takeInAll circumstances listener raws).2.clock := by
  induction raws generalizing world with
  | nil => exact Nat.le_refl _
  | cons raw later induction => exact Nat.le_trans (clock_le_run _) induction

variable [LawfulStore σ]

structure Takes (listener : Listener) (raw : RawEvent) (before : σ) (result : IntakeResult)
    (after : σ) : Prop where
  sound : LawfulStore.Sound after
  answer :
    result = .ok (listener.outcome (fun id => (LawfulStore.request? before id).isSome) raw)
  request : ∀ id, LawfulStore.request? after id = listener.known? before [raw] id
  untouched : ∀ id record, LawfulStore.record? before id = some record →
    LawfulStore.record? after id = some record

section

variable {raw : RawEvent} {event : Event} {before after : σ}

theorem takes_of_error {reason : String} (sound : LawfulStore.Sound before)
    (skipped : listener.request raw = .error reason) :
    Takes listener raw before (.ok (.skipped reason)) before where
  sound := sound
  answer := by simp [Listener.outcome, skipped]
  request id := by simp [Listener.known?, Listener.reports?, skipped]
  untouched _ _ there := there

theorem takes_of_taken (sound : LawfulStore.Sound before)
    (accepted : listener.request raw = .ok event) {stored : Redemption}
    (taken : LawfulStore.record? before event.sourceTxHash = some stored) :
    Takes listener raw before (.ok (.duplicate event.sourceTxHash)) before where
  sound := sound
  answer := by simp [Listener.outcome, accepted, LawfulStore.request?, taken]
  request id := by
    by_cases same : event.sourceTxHash = id
    · subst same
      simp [Listener.known?, LawfulStore.request?, taken]
    · simp [Listener.known?, Listener.reports?, accepted, same]
  untouched _ _ there := there

theorem takes_of_vacant (soundAfter : LawfulStore.Sound after)
    (accepted : listener.request raw = .ok event)
    (vacant : LawfulStore.record? before event.sourceTxHash = none) {now logged : Nat}
    (held : ∀ id, LawfulStore.record? after id =
      if id = event.sourceTxHash then some (Redemption.observed raw.chain event now logged)
      else LawfulStore.record? before id) :
    Takes listener raw before (.ok (.created event.sourceTxHash)) after where
  sound := soundAfter
  answer := by simp [Listener.outcome, accepted, LawfulStore.request?, vacant]
  request id := by
    by_cases same : event.sourceTxHash = id
    · subst same
      simp [Listener.known?, Listener.reports?, LawfulStore.request?, accepted, vacant, held,
        Redemption.observed, Redemption.log]
    · have other : ¬ id = event.sourceTxHash := fun equal => same equal.symm
      simp [Listener.known?, Listener.reports?, LawfulStore.request?, accepted, same, held, other]
  untouched id record there := by
    rw [held, if_neg, there]
    rintro rfl
    cases there.symm.trans vacant

end

omit [LawfulStore σ] in
theorem enter_answer (chain : String) (event : Event) :
    Intake.enter (answer circumstances) chain event world =
      let stamped := world.turn circumstances
      let logged := stamped.turn circumstances
      let created := logged.turn circumstances
      let record := Redemption.observed chain event stamped.seconds logged.seconds
      match Store.create world.store record with
      | .ok (.created, store) =>
          (.ok (.created event.sourceTxHash), (created.holding store).turn circumstances)
      | .ok (.alreadyExists, store) =>
          (.ok (.duplicate event.sourceTxHash), created.holding store)
      | .error error => (.error error, created) := by
  dsimp only [Intake.enter, answer, store_turn]
  rcases Store.create world.store _ with error | ⟨creation, store⟩
  · rfl
  · cases creation <;> rfl

omit [LawfulStore σ] in
theorem seconds_le_enter (chain : String) (event : Event) :
    ((world.turn circumstances).turn circumstances).seconds ≤
      (Intake.enter (answer circumstances) chain event world).2.seconds := by
  rw [enter_answer]
  dsimp only
  apply seconds_le
  split
  · exact Nat.le_trans clock_le_turn clock_le_turn
  · exact clock_le_turn
  · exact clock_le_turn

theorem takes_takeIn (raw : RawEvent) (sound : LawfulStore.Sound world.store)
    (fits : (world.takeIn circumstances listener raw).2.seconds < Width.bound64) :
    Takes listener raw world.store (world.takeIn circumstances listener raw).1
      (world.takeIn circumstances listener raw).2.store := by
  unfold takeIn at fits ⊢
  rw [Intake.run_start] at fits ⊢
  cases accepted : listener.request raw with
  | error reason => exact takes_of_error sound accepted
  | ok event =>
      rw [accepted] at fits
      have logged := Nat.lt_of_le_of_lt (seconds_le_enter raw.chain event) fits
      have stamped : (world.turn circumstances).seconds < Width.bound64 :=
        Nat.lt_of_le_of_lt (seconds_le clock_le_turn) logged
      have inRange :=
        Redemption.inRange_observed raw.chain (Listener.inRange_of_request accepted) stamped logged
      dsimp only
      rw [enter_answer]
      dsimp only
      cases stored : LawfulStore.record? world.store event.sourceTxHash with
      | some stored =>
          rw [LawfulStore.create_of_taken sound stored]
          exact takes_of_taken sound accepted stored
      | none =>
          rcases LawfulStore.create_of_vacant sound inRange stored with
            ⟨store, creates, soundAfter, held⟩
          rw [creates]
          exact takes_of_vacant soundAfter accepted stored held

structure TakesAll (listener : Listener) (raws : List RawEvent) (before : σ)
    (results : List IntakeResult) (after : σ) : Prop where
  sound : LawfulStore.Sound after
  answers : ∀ earlier raw later, raws = earlier ++ raw :: later →
    results[earlier.length]? =
      some (.ok (listener.outcome (fun id => (listener.known? before earlier id).isSome) raw))
  requests : ∀ id, LawfulStore.request? after id = listener.known? before raws id
  untouched : ∀ id record, LawfulStore.record? before id = some record →
    LawfulStore.record? after id = some record

theorem TakesAll.cons {raw : RawEvent} {raws : List RawEvent} {before between after : σ}
    {result : IntakeResult} {results : List IntakeResult}
    (takes : Takes listener raw before result between)
    (takesAll : TakesAll listener raws between results after) :
    TakesAll listener (raw :: raws) before (result :: results) after := by
  have known (told : List RawEvent) (id : String) :
      listener.known? between told id = listener.known? before (raw :: told) id := by
    unfold Listener.known?
    rw [takes.request id]
    simp only [Listener.known?, List.findSome?_cons, List.findSome?_nil, Option.or_assoc]
    cases listener.reports? id raw <;> rfl
  refine ⟨takesAll.sound, ?_, ?_, ?_⟩
  · intro earlier other later split
    cases earlier with
    | nil =>
        rcases List.cons.inj split with ⟨rfl, -⟩
        simp [takes.answer, Listener.known?]
    | cons first earlier =>
        rcases List.cons.inj split with ⟨rfl, rest⟩
        have answered := takesAll.answers earlier other later rest
        simp only [known] at answered
        simpa using answered
  · intro id
    rw [takesAll.requests, known]
  · intro id record there
    exact takesAll.untouched id record (takes.untouched id record there)

theorem takesAll_takeInAll (raws : List RawEvent) (sound : LawfulStore.Sound world.store)
    (fits : (world.takeInAll circumstances listener raws).2.seconds < Width.bound64) :
    TakesAll listener raws world.store (world.takeInAll circumstances listener raws).1
      (world.takeInAll circumstances listener raws).2.store := by
  induction raws generalizing world with
  | nil =>
      exact
        { sound := sound
          answers := by simp
          requests := by simp [takeInAll, Listener.known?]
          untouched := fun _ _ there => there }
  | cons raw later induction =>
      have takes := takes_takeIn raw sound
        (Nat.lt_of_le_of_lt (seconds_le (clock_le_takeInAll later)) fits)
      exact .cons takes (induction takes.sound fits)

def Mentions (listener : Listener) (store : σ) (raws : List RawEvent) (id : String)
    (request : String × Event) : Prop :=
  request ∈ LawfulStore.request? store id ∨ ∃ raw ∈ raws, request ∈ listener.reports? id raw

theorem mentions_of_known? {store : σ} {raws : List RawEvent}
    {id : String} {request : String × Event} (known : listener.known? store raws id = some request) :
    Mentions listener store raws id request := by
  rcases Option.or_eq_some_iff.mp known with stored | ⟨-, reported⟩
  · exact .inl stored
  · exact .inr (List.exists_of_findSome?_eq_some reported)

/-- Every request that is reported has its record. It tells of the request
itself, unless another one has the same transaction hash. -/
theorem requests_kept (raws : List RawEvent) (sound : LawfulStore.Sound world.store)
    (fits : (world.takeInAll circumstances listener raws).2.seconds < Width.bound64) :
    TakesAll listener raws world.store (world.takeInAll circumstances listener raws).1
        (world.takeInAll circumstances listener raws).2.store ∧
      ∀ raw ∈ raws, ∀ event, listener.request raw = .ok event →
        ∃ record,
          LawfulStore.record? (world.takeInAll circumstances listener raws).2.store
            event.sourceTxHash = some record ∧
          ((∀ request, Mentions listener world.store raws event.sourceTxHash request →
              request = (raw.chain, event)) →
            record.chain = raw.chain ∧ record.event = event) := by
  have takesAll := takesAll_takeInAll raws sound fits
  refine ⟨takesAll, ?_⟩
  intro raw told event accepted
  have reported : listener.reports? event.sourceTxHash raw = some (raw.chain, event) := by
    simp [Listener.reports?, accepted]
  have known : (listener.known? world.store raws event.sourceTxHash).isSome := by
    rw [Listener.known?, Option.isSome_or, Bool.or_eq_true, List.findSome?_isSome_iff]
    exact .inr ⟨raw, told, by rw [reported]; rfl⟩
  rcases Option.isSome_iff_exists.mp known with ⟨request, isKnown⟩
  have held := (takesAll.requests event.sourceTxHash).trans isKnown
  rcases Option.map_eq_some_iff.mp held with ⟨record, there, rfl⟩
  refine ⟨record, there, fun alone => ?_⟩
  exact Prod.mk.inj (alone _ (mentions_of_known? isKnown))

end Calm

namespace Calm.Sample

def listener : Listener :=
  ⟨[⟨"sepolia", .evm⟩]⟩

def event (hash amount : String) : RawEvent where
  chain := "sepolia"
  payload := .object [
    ("transactionHash", .text hash),
    ("args", .object [
      ("walletPubKeyHash", .text "0x00112233445566778899aabbccddeeff00112233"),
      ("mainUtxo", .object [
        ("txHash", .text "0x00112233445566778899aabbccddeeff00112233445566778899aabbccddeeff"),
        ("txOutputIndex", .number "1"),
        ("txOutputValue", .number "2")]),
      ("redeemerOutputScript", .text "0x76"),
      ("amount", .text amount)])]

def circumstances : Circumstances where
  duration _ := Duration.nanosecondsPerSecond
  reply _ _ := none

def start : Calm MemoryStore where
  store := {}
  clock := 0

end Calm.Sample

namespace Calm

/-- An event comes again, with its hash in other letters. -/
theorem requests_kept_of_replay :
    let raws := [Sample.event "0xa1" "5", Sample.event "0xb2" "6", Sample.event "0XA1" "5"]
    let told := Sample.start.takeInAll Sample.circumstances Sample.listener raws
    told.1 = [.ok (.created "0xa1"), .ok (.created "0xb2"), .ok (.duplicate "0xa1")] ∧
      TakesAll Sample.listener raws Sample.start.store told.1 told.2.store := by
  intro raws told
  have happened : told.1 = [.ok (.created "0xa1"), .ok (.created "0xb2"), .ok (.duplicate "0xa1")] ∧
      told.2.seconds < Width.bound64 := by
    simp only [told, raws, takeInAll, takeIn, Intake.run_start]
    decide +kernel
  exact ⟨happened.1, (requests_kept raws trivial happened.2).1⟩

/-- A transaction that requests two redemptions: the second one is taken for the
first, and is not kept. -/
theorem second_request_lost :
    let raws := [Sample.event "0xa1" "5", Sample.event "0xa1" "6"]
    let told := Sample.start.takeInAll Sample.circumstances Sample.listener raws
    told.1 = [.ok (.created "0xa1"), .ok (.duplicate "0xa1")] ∧
      ¬ ∀ raw ∈ raws, ∀ event, Sample.listener.request raw = .ok event →
        LawfulStore.request? told.2.store event.sourceTxHash = some (raw.chain, event) := by
  intro raws told
  have happened : told.1 = [.ok (.created "0xa1"), .ok (.duplicate "0xa1")] ∧
      (∃ event ∈ (Sample.listener.request (Sample.event "0xa1" "6")).toOption,
        event.sourceTxHash = "0xa1" ∧ event.amount = 6) ∧
      (LawfulStore.request? told.2.store "0xa1").map (·.2.amount) = some 5 := by
    simp only [told, raws, takeInAll, takeIn, Intake.run_start]
    decide +kernel
  rcases happened with ⟨answers, ⟨event, accepted, hash, amount⟩, stored⟩
  refine ⟨answers, fun kept => ?_⟩
  cases request : Sample.listener.request (Sample.event "0xa1" "6") with
  | error reason => simp [request, Except.toOption] at accepted
  | ok other =>
      simp only [request, Except.toOption, Option.mem_some] at accepted
      subst accepted
      have held := kept _ (by simp [raws]) other request
      rw [hash] at held
      simp [held, amount] at stored

end Calm

end RedemptionRelay
