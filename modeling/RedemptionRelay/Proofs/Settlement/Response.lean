import RedemptionRelay.Proofs.Json.Structure
import RedemptionRelay.Proofs.Rough.Attendance

/-! # What a response of the signing service makes of a record

The response decides what becomes of the record for which it was given. One that
tells of a reverted transaction ends the record, whatever else it tells; one of
success that tells of a transaction and of no error completes it; after any other
one the settlement may be tried again.
-/

namespace RedemptionRelay

namespace Settlement

open Json (Tree)
open Json.Tree (IsStructure MayHold HoldsOr SpellsText SpellsBool exists_isStructure_iff)

variable {complaint : String → String} {success : Bool} {body settlement : String}
  {response : Response}

/-! ## Documents -/

def Tells (body : String) (response : Response) : Prop :=
  ∃ tree, Tree.ofText? body = some tree ∧
    ∃ field, IsStructure ["tx_hash", "error", "reverted"] 2 field tree ∧
      MayHold SpellsText (field "tx_hash") response.txHash ∧
      MayHold SpellsText (field "error") response.error ∧
      HoldsOr false SpellsBool (field "reverted") response.reverted

theorem response_eq_some_iff :
    (Tree.ofText? body).bind Response.ofJson? = some response ↔ Tells body response := by
  rw [Option.bind_eq_some_iff]
  refine exists_congr fun tree => and_congr_right fun _ => ?_
  rw [exists_isStructure_iff (by decide) fun _ _ same holds =>
    same "tx_hash" (by simp) ▸ same "error" (by simp) ▸ same "reverted" (by simp) ▸ holds]
  simp only [Response.ofJson?, Option.bind_eq_bind, Option.bind_eq_some_iff, Option.pure_def,
    Option.some.injEq, Tree.Fields.optional?_eq_some_iff Tree.text?_eq_some_iff rfl,
    Tree.Fields.defaulted?_eq_some_iff Tree.bool?_eq_some_iff]
  constructor
  · rintro ⟨fields, isStructure, txHash, holdsHash, error, holdsError, reverted, holdsFlag, rfl⟩
    exact ⟨fields, isStructure, holdsHash, holdsError, holdsFlag⟩
  · rintro ⟨fields, isStructure, holdsHash, holdsError, holdsFlag⟩
    exact ⟨fields, isStructure, _, holdsHash, _, holdsError, _, holdsFlag, rfl⟩

theorem Tells.unique {other : Response} (tells : Tells body response)
    (tellsOther : Tells body other) : response = other := by
  rw [← response_eq_some_iff] at tells tellsOther
  exact Option.some.inj (tells.symm.trans tellsOther)

/-! ## Results -/

/-- Success, and a transaction of which nothing but its hash is told. -/
def Confirms (success : Bool) (body settlement : String) : Prop :=
  success = true ∧ settlement ≠ "" ∧ Tells body ⟨some settlement, none, false⟩

def Reverts (body : String) : Prop :=
  ∃ response, Tells body response ∧ response.reverted = true

theorem Confirms.unique {other : String} (confirms : Confirms success body settlement)
    (confirmsOther : Confirms success body other) : settlement = other := by
  cases confirms.2.2.unique confirmsOther.2.2
  rfl

theorem Confirms.not_reverts (confirms : Confirms success body settlement) : ¬ Reverts body := by
  rintro ⟨response, tells, reverted⟩
  cases confirms.2.2.unique tells
  cases reverted

theorem result_eq_ok_iff :
    response.result success body = .ok settlement ↔
      success = true ∧ settlement ≠ "" ∧ response = ⟨some settlement, none, false⟩ := by
  rcases response with ⟨txHash, error, reverted⟩
  cases reverted <;> cases error <;> cases success <;> cases txHash <;> simp [Response.result]
  next txHash =>
    constructor
    · intro told
      split at told
      · cases told
      · next filled =>
          cases told
          exact ⟨filled, rfl⟩
    · rintro ⟨filled, rfl⟩
      rw [if_neg filled]

theorem interpret_eq_ok_iff :
    interpret complaint success body = .ok settlement ↔ Confirms success body settlement := by
  unfold interpret Confirms
  simp only [← response_eq_some_iff]
  cases (Tree.ofText? body).bind Response.ofJson? with
  | none => cases success <;> simp
  | some response => simp [result_eq_ok_iff]

theorem isPermanent_result_iff :
    (∃ error, response.result success body = .error error ∧ error.isPermanent = true) ↔
      response.reverted = true := by
  rcases response with ⟨txHash, error, reverted⟩
  cases reverted <;> cases error <;> cases success <;> cases txHash <;>
    simp [Response.result, SettlementError.isPermanent]
  next txHash => split <;> simp

theorem isPermanent_interpret_iff :
    (∃ error, interpret complaint success body = .error error ∧ error.isPermanent = true) ↔
      Reverts body := by
  unfold interpret Reverts
  simp only [← response_eq_some_iff]
  cases (Tree.ofText? body).bind Response.ofJson? with
  | none => cases success <;> simp [SettlementError.isPermanent]
  | some response => simp [isPermanent_result_iff]

/-! ## Changes -/

/-- The change that a response brings about. -/
inductive Ruling (success : Bool) (body : String) : Mark → Prop
  | completed {settlement : String} (confirms : Confirms success body settlement) :
      Ruling success body (.completed settlement)
  | failed (reverts : Reverts body) (error : String) : Ruling success body (.failed error)
  | submitFailed (unconfirmed : ∀ settlement, ¬ Confirms success body settlement)
      (unreverted : ¬ Reverts body) (error : String) : Ruling success body (.submitFailed error)

theorem ruling_concludeSubmit (policy : RetryPolicy) (complaint : String → String)
    (success : Bool) (body : String) :
    Ruling success body (policy.concludeSubmit (some (interpret complaint success body))).1 := by
  cases result : interpret complaint success body with
  | ok settlement => exact .completed (interpret_eq_ok_iff.mp result)
  | error error =>
      dsimp only [RetryPolicy.concludeSubmit]
      split
      · next permanent =>
          exact .failed (isPermanent_interpret_iff.mp ⟨error, result, permanent⟩) _
      · next transient =>
          refine .submitFailed (fun settlement confirms => ?_) (fun reverts => ?_) _
          · rw [interpret_eq_ok_iff.mpr confirms] at result
            cases result
          · rcases isPermanent_interpret_iff.mpr reverts with ⟨other, result', permanent⟩
            rw [result] at result'
            cases result'
            exact transient permanent

/-- What a response makes of a record. -/
structure Settles (success : Bool) (body : String) (record next : Redemption) : Prop where
  request : next.SameRequest record
  unleased : next.leaseExpiresAt = none
  completed (settlement : String) :
    next.status = .completed ∧ next.settlement = some settlement ↔
      Confirms success body settlement
  failed : next.status = .failed ↔ Reverts body
  retried : next.status = .submitFailed ↔
    (∀ settlement, ¬ Confirms success body settlement) ∧ ¬ Reverts body
  counted : next.status = .submitFailed →
    next.retryCount = record.retryCount + 1 ∧ next.status.isRetryable = true

theorem settles_of_apply {mark : Mark} {record next : Redemption} {now logged : Nat}
    (ruling : Ruling success body mark) (changed : record.apply mark now logged = .ok next) :
    Settles success body record next := by
  have status := Redemption.status_of_apply changed
  have traces := Redemption.traces_of_apply changed
  have request := Redemption.sameRequest_of_apply changed
  cases ruling with
  | @completed settlement confirms =>
      have isSettlement : next.settlement = some settlement := by
        rcases Redemption.become_bind_eq_ok.mp changed with ⟨-, rfl⟩
        rfl
      refine ⟨request, traces.lease, fun other => ?_, ?_, ?_, ?_⟩
      · rw [isSettlement, Option.some.injEq]
        constructor
        · rintro ⟨-, rfl⟩
          exact confirms
        · exact fun confirmsOther => ⟨status.2, confirms.unique confirmsOther⟩
      · simp [status.2, confirms.not_reverts]
      · simp only [status.2, reduceCtorEq, false_iff, not_and]
        exact fun unconfirmed => absurd confirms (unconfirmed settlement)
      · simp [status.2]
  | failed reverts error =>
      refine ⟨request, traces.lease, fun settlement => ?_, ?_, ?_, ?_⟩
      · simp only [status.2, reduceCtorEq, false_and, false_iff]
        exact fun confirms => confirms.not_reverts reverts
      · simp [status.2, reverts]
      · simp [status.2, reverts]
      · simp [status.2]
  | submitFailed unconfirmed unreverted error =>
      refine ⟨request, traces.lease, fun settlement => ?_, ?_, ?_, fun _ => ⟨traces.retries, ?_⟩⟩
      · simp [status.2, unconfirmed]
      · simp [status.2, unreverted]
      · simp [status.2, unconfirmed, unreverted]
      · rw [status.2]
        rfl

theorem Settles.of_claim {record claimed next : Redemption} {version : Nat}
    (settles : Settles success body claimed next) (request : claimed.SameRequest record)
    (retries : claimed.retryCount = record.retryCount) :
    Settles success body record { next with version := version } where
  request :=
    have request := settles.request.trans request
    ⟨request.id, request.chain, request.event, request.createdAt⟩
  unleased := settles.unleased
  completed := settles.completed
  failed := settles.failed
  retried := settles.retried
  counted := retries ▸ settles.counted

theorem canBecome_of_ruling {mark : Mark} {record : Redemption} (ruling : Ruling success body mark)
    (reads : Phase.settlement.Reads record) :
    ∀ target ∈ mark.target?, record.status.canBecome target := by
  rcases reads with isFetched | hasFailed
  · rw [isFetched]
    cases ruling <;> exact fun target isTarget => by cases isTarget; rfl
  · rw [hasFailed]
    cases ruling <;> exact fun target isTarget => by cases isTarget; rfl

end Settlement

/-! ## In any weather -/

open Settlement (Settles)

section

variable {weather : Weather} {policy : RetryPolicy} {record : Redemption}
  {complaint : String → String} {success : Bool} {body : String} {moment : Nat}

/-- No write about the record is turned down. -/
def Weather.LetsLand (weather : Weather) (record : Redemption) : Prop :=
  ∀ moment next expected, next.id = record.id →
    weather.fault? moment (.update next expected) = none

/-- Whatever is submitted for the record is answered in this way. -/
def Weather.Answers (weather : Weather) (record : Redemption) (result : SettlementResult) : Prop :=
  ∀ moment payload, record.payload = some payload →
    weather.reply moment (.submit payload record.event) = some result

theorem Weather.settles_fate {call : Call} {limit : Duration} {leaseUntil : Nat}
    (reads : Phase.settlement.Reads record) (lands : weather.LetsLand record)
    (answers : weather.Answers record (Settlement.interpret complaint success body))
    (decided : policy.decide .settlement record (secondOf (weather.answered moment .readClock)) =
      .attempt call limit leaseUntil) :
    Settles success body record (weather.fate .settlement policy record moment).record := by
  rcases Option.map_eq_some_iff.mp (RetryPolicy.attempts_of_decide decided).isCall with
    ⟨payload, isPayload, rfl⟩
  let claim := weather.claim record leaseUntil (weather.answered moment .readClock)
  let claimed := { claim with version := record.version + 1 }
  let result := Settlement.interpret complaint success body
  have ruling := Settlement.ruling_concludeSubmit policy complaint success body
  have edge := Settlement.canBecome_of_ruling ruling (show Phase.settlement.Reads claimed from reads)
  have request : claimed.SameRequest record := ⟨rfl, rfl, rfl, rfl⟩
  rw [fate_of_decide decided]
  dsimp only [sequel]
  rw [pursuit_of_ok (lands _ _ _ rfl)]
  dsimp only [errand]
  rw [answers _ _ isPayload]
  dsimp only [RetryPolicy.conclude]
  rcases exists_record_conclusion edge lands with ⟨now, logged, next, changed, isNext⟩
  rw [isNext]
  exact (Settlement.settles_of_apply ruling changed).of_claim request rfl

end

/-! ## In a rough world -/

namespace Rough

variable {σ : Type} [Store σ] [LawfulStore σ] {weather : Weather} {world : Rough σ}
  {policy : RetryPolicy} {record : Redemption} {complaint : String → String} {success : Bool}
  {body : String}

/-- The record waits for its settlement and is admitted to it, what is submitted
for it is answered in this way, and what is written about it lands. -/
structure Submits (weather : Weather) (world : Rough σ) (policy : RetryPolicy)
    (record : Redemption) (result : SettlementResult) : Prop where
  sound : LawfulStore.Sound world.store
  current : LawfulStore.record? world.store record.id = some record
  reads : Phase.settlement.Reads record
  admitted : ∃ call limit leaseUntil,
    policy.decide .settlement record (world.elapse weather .readClock).seconds =
      .attempt call limit leaseUntil
  answers : weather.Answers record result
  lands : weather.LetsLand record
  inRange : record.InRange
  room : record.version + 2 < Width.bound64
  retriesFit : record.retryCount + 1 < Width.bound32

/-- The response decides what becomes of the record before the batch goes on to
the next one, and nothing becomes of the others. -/
theorem responses_decide_fates {batch : Batch} (settling : batch.phase = .settlement)
    (submits : Submits weather world batch.policy record
      (Settlement.interpret complaint success body))
    (inTime : (Batch.attend (answer weather) .settlement batch.policy record world).2.seconds <
      Width.bound64) (queue : List Redemption) :
    ∃ outcome between next,
      Activity.run (answer weather) world (batch.move (.admitting record queue)) =
          Activity.run (answer weather) between (batch.close outcome queue) ∧
        Settles success body record next ∧
        ∀ id, LawfulStore.record? between.store id =
          if id = record.id then some next else LawfulStore.record? world.store id := by
  rcases submits.admitted with ⟨call, limit, leaseUntil, decided⟩
  have befalls := befalls_attend_of_attempt submits.sound submits.current submits.inRange
    submits.retriesFit submits.room decided inTime
  rcases attended : Batch.attend (answer weather) .settlement batch.policy record world with
    ⟨_ | outcome, between⟩
  · rw [attend_of_decide decided] at attended
    cases congrArg Prod.fst attended
  · rw [attended] at befalls
    refine ⟨outcome, between, _, ?_, ?_, befalls.records⟩
    · rw [Batch.run_admitting, settling, attended]
    · exact Weather.settles_fate submits.reads submits.lands submits.answers decided

end Rough

/-! ## A transaction that reverted -/

namespace Settlement.Sample

def record : Redemption where
  id := "0xa1"
  chain := "sepolia"
  event := ⟨"0x01", ⟨"0x02", 1, 2⟩, "0x76", 5, "0xa1"⟩
  payload := some [1]
  attestation := .fetched
  settlement := none
  status := .submitFailed
  error := some "Submission rejected: busy"
  retryCount := 1
  leaseExpiresAt := none
  version := 5
  dates := { createdAt := 0, attestationFetchedAt := some 1, lastActivityAt := 10 }
  logs := []

def world : Rough MemoryStore where
  store := { records := [record], distinct := by decide }
  clock := 100 * Duration.nanosecondsPerSecond

def body : String :=
  "[\"0x5e\", \"out of gas\", true]"

def weather : Weather where
  duration _ _ := Duration.nanosecondsPerSecond
  fault? _ _ := none
  reply
    | _, .fetch _ => none
    | _, .submit _ _ => some (interpret id false body)

def batch : Batch :=
  Batch.start .settlement {} none

theorem submits : Rough.Submits weather world batch.policy record (interpret id false body) where
  sound := trivial
  current := rfl
  reads := .inr rfl
  admitted := ⟨.submit [1] record.event, .ofSeconds 120, 251, by decide +kernel⟩
  answers _ _ _ := rfl
  lands _ _ _ _ := rfl
  inRange := by decide
  room := by decide
  retriesFit := by decide

end Settlement.Sample

open Settlement.Sample in
/-- Neither the hash nor the status of the response saves the record. -/
theorem Rough.responses_decide_fates_of_reverted :
    ∃ outcome between next,
      Activity.run (answer weather) world (batch.move (.admitting record [])) =
          Activity.run (answer weather) between (batch.close outcome []) ∧
        LawfulStore.record? between.store "0xa1" = some next ∧ next.status = .failed := by
  rcases responses_decide_fates rfl submits (by decide +kernel) [] with
    ⟨outcome, between, next, runs, settles, records⟩
  have told : Settlement.interpret id false body = .error (.reverted "out of gas") := by
    decide +kernel
  have reverts := Settlement.isPermanent_interpret_iff.mp ⟨_, told, rfl⟩
  exact ⟨outcome, between, next, runs, records _, settles.failed.mpr reverts⟩

end RedemptionRelay
