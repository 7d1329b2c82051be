import RedemptionRelay.Proofs.Activity
import RedemptionRelay.Proofs.Fleet

/-! # Rough worlds

In a rough world one worker is alone with a store that may fail at any
operation, and with services that say anything or nothing. The moment and the
request decide what happens, and how long it takes. Everything that is done is
kept.
-/

namespace RedemptionRelay

/-! ## What is about which redemption -/

def Call.subject : Call → String
  | .fetch sourceTxHash => sourceTxHash
  | .submit _ event => event.sourceTxHash

def Request.subject? : Request → Option String
  | .create record | .update record _ => some record.id
  | .perform call _ => some call.subject
  | .announce milestone => some milestone.redemptionId
  | .listRecords _ _ | .readClock => none

def Deed.subject : Deed → String
  | .stored record | .refused record _ => record.id
  | .called id _ | .replied id _ _ => id
  | .announced milestone => milestone.redemptionId

/-! ## Weather -/

structure Weather where
  /-- Nanoseconds until the answer. -/
  duration : Nat → Request → Nat
  /-- How a store operation fails, if it does. -/
  fault? : Nat → Request → Option StoreError
  reply : Nat → (call : Call) → Option call.Reply

namespace Weather

def answered (weather : Weather) (moment : Nat) (request : Request) : Nat :=
  moment + weather.duration moment request

theorem le_answered (weather : Weather) (moment : Nat) (request : Request) :
    moment ≤ weather.answered moment request :=
  Nat.le_add_right _ _

/-- The two differ in what happens to this redemption at the most. -/
structure AgreesBut (left : Weather) (id : String) (right : Weather) : Prop where
  duration : ∀ moment request, request.subject? ≠ some id →
    left.duration moment request = right.duration moment request
  fault? : ∀ moment request, request.subject? ≠ some id →
    left.fault? moment request = right.fault? moment request
  reply : ∀ moment (call : Call), call.subject ≠ id →
    left.reply moment call = right.reply moment call

def readFault? (weather : Weather) (phase : Phase) (chain : Option String) (moment : Nat) :
    Option StoreError :=
  let waiting := .listRecords phase.waiting chain
  (weather.fault? moment waiting).or
    (weather.fault? (weather.answered moment waiting) (.listRecords phase.retrying chain))

variable {left right : Weather} {id : String}

theorem AgreesBut.answered (agree : left.AgreesBut id right) {moment : Nat} {request : Request}
    (other : request.subject? ≠ some id) :
    left.answered moment request = right.answered moment request :=
  congrArg (moment + ·) (agree.duration moment request other)

theorem AgreesBut.readFault? (agree : left.AgreesBut id right) (phase : Phase)
    (chain : Option String) (moment : Nat) :
    left.readFault? phase chain moment = right.readFault? phase chain moment := by
  have reads (status : Status) : (Request.listRecords status chain).subject? ≠ some id := nofun
  unfold Weather.readFault?
  dsimp only
  rw [agree.answered (reads _), agree.fault? _ _ (reads _), agree.fault? _ _ (reads _)]

end Weather

/-! ## Worlds -/

structure Rough (σ : Type) where
  store : σ
  /-- Nanoseconds since the start of 1970. -/
  clock : Nat
  /-- Oldest first. -/
  deeds : List Deed := []

namespace Rough

variable {σ : Type}

def seconds (world : Rough σ) : Nat :=
  world.clock / Duration.nanosecondsPerSecond

def elapse (world : Rough σ) (weather : Weather) (request : Request) : Rough σ :=
  { world with clock := weather.answered world.clock request }

def holding (world : Rough σ) (store : σ) : Rough σ :=
  { world with store := store }

def doing (world : Rough σ) (deeds : List Deed) : Rough σ :=
  { world with deeds := world.deeds ++ deeds }

def about (world : Rough σ) (id : String) : List Deed :=
  world.deeds.filter (·.subject = id)

def answer [Store σ] (weather : Weather) : Surroundings (Rough σ) :=
  fun world request =>
    let later := world.elapse weather request
    match (weather.fault? world.clock request).bind request.failure? with
    | some (answer, deeds) => (answer, later.doing deeds)
    | none =>
        match request with
        | .listRecords status chain => (Store.withStatus world.store status chain, later)
        | .readClock => (later.seconds, later)
        | .create record =>
            match Store.create world.store record with
            | .ok (.created, store) =>
                (.ok .created, (later.holding store).doing [.stored record])
            | .ok (.alreadyExists, _) => (.ok .alreadyExists, later)
            | .error error => (.error error, later.doing [.refused record error])
        | .update record expected =>
            match Store.update world.store record expected with
            | .ok (version, store) =>
                (.ok version,
                  (later.holding store).doing [.stored { record with version := version }])
            | .error error => (.error error, later.doing [.refused record error])
        | .perform call _ =>
            let reply := weather.reply world.clock call
            (reply, later.doing [.called call.subject call, .replied call.subject call reply])
        | .announce milestone => ((), later.doing [.announced milestone])

/-! ## Answers -/

section

variable [Store σ] {weather : Weather} {world : Rough σ}

theorem answer_readClock :
    answer weather world .readClock =
      ((world.elapse weather .readClock).seconds, world.elapse weather .readClock) := by
  unfold answer
  cases weather.fault? world.clock .readClock <;> rfl

theorem answer_perform (call : Call) (limit : Duration) :
    answer weather world (.perform call limit) =
      (weather.reply world.clock call,
        (world.elapse weather (.perform call limit)).doing
          [.called call.subject call,
            .replied call.subject call (weather.reply world.clock call)]) := by
  unfold answer
  cases weather.fault? world.clock (.perform call limit) <;> rfl

theorem answer_announce (milestone : Milestone) :
    answer weather world (.announce milestone) =
      ((), (world.elapse weather (.announce milestone)).doing [.announced milestone]) := by
  unfold answer
  cases weather.fault? world.clock (.announce milestone) <;> rfl

theorem answer_listRecords (status : Status) (chain : Option String) :
    answer weather world (.listRecords status chain) =
      (match weather.fault? world.clock (.listRecords status chain) with
        | some error => .error error
        | none => Store.withStatus world.store status chain,
        world.elapse weather (.listRecords status chain)) := by
  unfold answer
  cases weather.fault? world.clock (.listRecords status chain) with
  | none => rfl
  | some error =>
      show (_, (world.elapse weather _).doing []) = _
      rw [doing, List.append_nil]

theorem answer_update_of_fault {record : Redemption} {expected : Nat} {error : StoreError}
    (fails : weather.fault? world.clock (.update record expected) = some error) :
    answer weather world (.update record expected) =
      (.error error,
        (world.elapse weather (.update record expected)).doing [.refused record error]) := by
  unfold answer
  rw [fails]
  rfl

theorem answer_update_of_ok {record : Redemption} {expected version : Nat} {store : σ}
    (works : weather.fault? world.clock (.update record expected) = none)
    (lands : Store.update world.store record expected = .ok (version, store)) :
    answer weather world (.update record expected) =
      (.ok version,
        ((world.elapse weather (.update record expected)).holding store).doing
          [.stored { record with version := version }]) := by
  unfold answer
  rw [works]
  dsimp only [Option.bind_none]
  rw [lands]

end

end Rough

end RedemptionRelay
