import RedemptionRelay.Batch
import RedemptionRelay.Intake

/-! # Fleets

A fleet is any number of workers that share one store and one clock. Each has a
job, which is a batch or an intake, and takes one step of it at a time; the
steps of different workers alternate in any order. At every step a store
operation may fail without effect, and a worker may stop for good. Nothing is
ever deleted.

The clock counts nanoseconds; the workers read whole seconds off it. A call is
under way from its start to its end, and its end comes no later than its limit,
even if the worker that made it has stopped.
-/

namespace RedemptionRelay

/-! ## Jobs -/

namespace Stage

/-- The claimed record and the attempt whose call comes next. -/
def attempt? : Stage → Option (Redemption × Attempt)
  | .calling claimed attempt _ => some (claimed, attempt)
  | _ => none

def isAdmitting : Stage → Bool
  | .admitting _ _ => true
  | _ => false

end Stage

inductive Job where
  | batch (batch : Batch)
  | intake (intake : Intake)

def Next.map {State Other Result : Type} (wrap : State → Other) :
    Next State Result → Next Other Unit
  | .done _ => .done ()
  | .ask request resume => .ask request fun answer => wrap (resume answer)

namespace Job

def next : Job → Next Job Unit
  | .batch work => work.next.map .batch
  | .intake work => work.next.map .intake

def attempt? : Job → Option (Redemption × Attempt)
  | .batch work => work.stage.attempt?
  | .intake _ => none

def isAdmitting : Job → Bool
  | .batch work => work.stage.isAdmitting
  | .intake _ => false

def hear (job : Job) (reply : (call : Call) → Option call.Reply) : Job :=
  match job.next with
  | .ask (.perform call _) resume => resume (reply call)
  | _ => job

end Job

/-! ## Workers and what they have done -/

structure Member where
  job : Job
  /-- When the clock was read to admit the record at hand. -/
  admittedAt : Nat := 0
  /-- Since when a call has been under way. -/
  calledAt : Option Nat := none
  /-- How long the call for the record at hand lasted; nothing before its end. -/
  spent : Nat := 0
  isHalted : Bool := false

namespace Member

/-- Goes on with the job, and notes when a record has been admitted. -/
def goOn (member : Member) (clock : Nat) (job : Job) : Member :=
  if member.job.isAdmitting then { member with job := job, admittedAt := clock, spent := 0 }
  else { member with job := job }

@[simp]
theorem job_goOn (member : Member) (clock : Nat) (job : Job) :
    (member.goOn clock job).job = job := by
  unfold goOn
  split <;> rfl

@[simp]
theorem calledAt_goOn (member : Member) (clock : Nat) (job : Job) :
    (member.goOn clock job).calledAt = member.calledAt := by
  unfold goOn
  split <;> rfl

/-- No call outlasts its limit. -/
def mayWait (member : Member) (time : Nat) : Bool :=
  match member.calledAt, member.job.attempt? with
  | some start, some (_, attempt) => time ≤ start + attempt.limit.nanoseconds
  | _, _ => true

end Member

inductive Deed where
  /-- A write landed; this is what the store holds now. -/
  | stored (record : Redemption)
  /-- A write was turned down. -/
  | refused (record : Redemption) (error : StoreError)
  | called (id : String) (call : Call)
  | replied (id : String) (call : Call) (reply : Option call.Reply)
  | announced (milestone : Milestone)

def Deed.success? : Deed → Option (String × String)
  | .replied id (.submit _ _) (some (.ok tx)) => some (id, tx)
  | _ => none

structure HistoryEntry where
  member : Nat
  deed : Deed

def HistoryEntry.version? (id : String) (entry : HistoryEntry) : Option Redemption :=
  match entry.deed with
  | .stored record => if record.id = id then some record else none
  | _ => none

def HistoryEntry.isWriteBy (index : Nat) (entry : HistoryEntry) : Bool :=
  match entry.deed with
  | .stored _ | .refused _ _ => entry.member == index
  | _ => false

/-! ## Fleets -/

structure Fleet (σ : Type) where
  store : σ
  /-- Nanoseconds since the start of 1970. -/
  clock : Nat
  members : List Member := []
  /-- What the listeners have been told. -/
  events : List (Listener × RawEvent) := []
  /-- Oldest first. -/
  history : List HistoryEntry := []

/-- A write is possible only where every number fits its width. -/
def Request.Fits : Request → Prop
  | .create record => record.InRange
  | .update record expected => { record with version := expected + 1 }.InRange
  | _ => True

instance : (request : Request) → Decidable request.Fits
  | .create record => inferInstanceAs (Decidable record.InRange)
  | .update record expected =>
      inferInstanceAs (Decidable { record with version := expected + 1 }.InRange)
  | .listRecords _ _ => inferInstanceAs (Decidable True)
  | .readClock => inferInstanceAs (Decidable True)
  | .perform _ _ => inferInstanceAs (Decidable True)
  | .announce _ => inferInstanceAs (Decidable True)

/-- The answer to a store operation that fails, and the write it turns down. -/
def Request.failure? (error : StoreError) :
    (request : Request) → Option (request.Answer × List Deed)
  | .listRecords _ _ => some (.error error, [])
  | .create record => some (.error error, [.refused record error])
  | .update record _ => some (.error error, [.refused record error])
  | _ => none

inductive Action where
  /-- The store, the clock or the journal answers. -/
  | proceed
  | fail (error : StoreError)
  | call
  /-- The call ends. -/
  | hear (reply : (call : Call) → Option call.Reply)
  | halt

inductive Move where
  | pass (nanoseconds : Nat)
  | launchBatch (phase : Phase) (policy : RetryPolicy) (chain : Option String)
  | launchIntake (listener : Listener) (raw : RawEvent)
  | act (index : Nat) (action : Action)

namespace Fleet

variable {σ : Type}

def initial (store : σ) (clock : Nat) : Fleet σ :=
  { store := store, clock := clock }

def seconds (fleet : Fleet σ) : Nat :=
  fleet.clock / Duration.nanosecondsPerSecond

/-- What the store has held under an identifier since the fleet began. -/
def versions (fleet : Fleet σ) (id : String) : List Redemption :=
  fleet.history.filterMap (HistoryEntry.version? id)

/-- A listener has been told of this event and has not skipped it. -/
def Accepted (fleet : Fleet σ) (chain : String) (event : Event) : Prop :=
  ∃ listener raw, (listener, raw) ∈ fleet.events ∧ raw.chain = chain ∧
    listener.request raw = .ok event

def IsCalling (fleet : Fleet σ) (index : Nat) (id : String) : Prop :=
  ∃ member claimed attempt, fleet.members[index]? = some member ∧ member.calledAt.isSome ∧
    member.job.attempt? = some (claimed, attempt) ∧ claimed.id = id

def joined (fleet : Fleet σ) (job : Job) : Fleet σ :=
  { fleet with members := fleet.members ++ [{ job := job }] }

def told (fleet : Fleet σ) (listener : Listener) (raw : RawEvent) : Fleet σ :=
  { fleet with events := fleet.events ++ [(listener, raw)] }

def replaced (fleet : Fleet σ) (index : Nat) (member : Member) (store : σ) (deeds : List Deed) :
    Fleet σ :=
  { fleet with
    store := store
    members := fleet.members.set index member
    history := fleet.history ++ deeds.map (⟨index, ·⟩) }

variable [Store σ]

def answer? (fleet : Fleet σ) : (request : Request) → Option (request.Answer × σ × List Deed)
  | .listRecords status chain => some (Store.withStatus fleet.store status chain, fleet.store, [])
  | .readClock => some (fleet.seconds, fleet.store, [])
  | .create record =>
      match Store.create fleet.store record with
      | .ok (.created, store) => some (.ok .created, store, [.stored record])
      | .ok (.alreadyExists, store) => some (.ok .alreadyExists, store, [])
      | .error error => some (.error error, fleet.store, [.refused record error])
  | .update record expected =>
      match Store.update fleet.store record expected with
      | .ok (version, store) =>
          some (.ok version, store, [.stored { record with version := version }])
      | .error error => some (.error error, fleet.store, [.refused record error])
  | .announce milestone => some ((), fleet.store, [.announced milestone])
  | .perform _ _ => none

def act? (fleet : Fleet σ) (member : Member) : Action → Option (Member × σ × List Deed)
  | .proceed =>
      match member.job.next with
      | .ask request resume =>
          if member.isHalted || !decide request.Fits then none
          else
            (fleet.answer? request).map fun (answer, store, deeds) =>
              (member.goOn fleet.clock (resume answer), store, deeds)
      | .done _ => none
  | .fail error =>
      match member.job.next with
      | .ask request resume =>
          if member.isHalted then none
          else
            (request.failure? error).map fun (answer, deeds) =>
              ({ member with job := resume answer }, fleet.store, deeds)
      | .done _ => none
  | .call =>
      if member.isHalted || member.calledAt.isSome then none
      else
        member.job.attempt?.map fun (claimed, attempt) =>
          ({ member with calledAt := some fleet.clock }, fleet.store,
            [.called claimed.id attempt.call])
  | .hear reply =>
      match member.calledAt, member.job.attempt? with
      | some start, some (claimed, attempt) =>
          if member.isHalted then some ({ member with calledAt := none }, fleet.store, [])
          else
            some
              ({ member with
                  job := member.job.hear reply
                  calledAt := none
                  spent := fleet.clock - start },
                fleet.store, [.replied claimed.id attempt.call (reply attempt.call)])
      | _, _ => none
  | .halt => some ({ member with isHalted := true }, fleet.store, [])

def step? (fleet : Fleet σ) : Move → Option (Fleet σ)
  | .pass nanoseconds =>
      let time := fleet.clock + nanoseconds
      if fleet.members.all (·.mayWait time) then some { fleet with clock := time } else none
  | .launchBatch phase policy chain =>
      some (fleet.joined (.batch (Batch.start phase policy chain)))
  | .launchIntake listener raw =>
      some ((fleet.told listener raw).joined (.intake (Intake.start listener raw)))
  | .act index action =>
      match fleet.members[index]? with
      | some member =>
          (fleet.act? member action).map fun (member, store, deeds) =>
            fleet.replaced index member store deeds
      | none => none

/-! ## Runs -/

/-- A run in which every move is an allowed one. -/
inductive Run (allowed : Fleet σ → Move → Prop) (start : Fleet σ) : Fleet σ → Prop where
  | rest : Run allowed start start
  | move {fleet next : Fleet σ} (move : Move) (run : Run allowed start fleet)
      (admissible : allowed fleet move) (step : fleet.step? move = some next) :
      Run allowed start next

/-- Any move is allowed. -/
def Free : Fleet σ → Move → Prop :=
  fun _ _ => True

instance (fleet : Fleet σ) (move : Move) : Decidable (fleet.Free move) :=
  inferInstanceAs (Decidable True)

/-- Makes the moves one after the other, as far as they are possible and allowed. -/
def follow? (allowed : Fleet σ → Move → Prop) [∀ fleet move, Decidable (allowed fleet move)]
    (fleet : Fleet σ) : List Move → Option (Fleet σ)
  | [] => some fleet
  | move :: later =>
      if allowed fleet move then
        match fleet.step? move with
        | some next => next.follow? allowed later
        | none => none
      else none

theorem Run.of_follow? {allowed : Fleet σ → Move → Prop}
    [∀ fleet move, Decidable (allowed fleet move)] {start fleet last : Fleet σ} {moves : List Move}
    (run : Run allowed start fleet) (followed : fleet.follow? allowed moves = some last) :
    Run allowed start last := by
  induction moves generalizing fleet with
  | nil => exact Option.some.inj followed ▸ run
  | cons move later induction =>
      simp only [follow?] at followed
      split at followed
      · next admissible =>
          split at followed
          · next next step => exact induction (.move move run admissible step) followed
          · cases followed
      · cases followed

/-! ## A first request

The moves by which a request comes into the store, and by which a batch claims
the record of it. -/

namespace Sample

def listener : Listener :=
  ⟨[⟨"sepolia", .evm⟩]⟩

def event : RawEvent where
  chain := "sepolia"
  payload := .object [
    ("transactionHash", .text "0xa1"),
    ("args", .object [
      ("walletPubKeyHash", .text "0x00112233445566778899aabbccddeeff00112233"),
      ("mainUtxo", .object [
        ("txHash", .text "0x00112233445566778899aabbccddeeff00112233445566778899aabbccddeeff"),
        ("txOutputIndex", .number "1"),
        ("txOutputValue", .number "2")]),
      ("redeemerOutputScript", .text "0x76"),
      ("amount", .number "5")])]

def arrival : List Move :=
  [.launchIntake listener event, .act 0 .proceed, .act 0 .proceed, .act 0 .proceed]

def claim (index : Nat) : List Move :=
  List.replicate 5 (.act index .proceed)

def attests : (call : Call) → Option call.Reply
  | .fetch _ => some (.ok (.available []))
  | .submit _ _ => none

def settles : (call : Call) → Option call.Reply
  | .fetch _ => none
  | .submit _ _ => some (.ok "0xb2")

def conclusion (index : Nat) (reply : (call : Call) → Option call.Reply) : List Move :=
  .act index (.hear reply) :: List.replicate 3 (.act index .proceed)

end Sample

end Fleet

end RedemptionRelay
