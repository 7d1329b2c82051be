import RedemptionRelay.Activity
import RedemptionRelay.Policy

/-! # Batches

A batch carries the redemptions of one phase forward. It reads all records in
the phase's states, and for each of them in turn decides whether to attempt it,
claims it, makes the external call, and stores what came of it. Every write is
conditional on the version that was read. What goes wrong with one record is
stored on the record and never keeps the batch from the others.
-/

namespace RedemptionRelay

inductive Phase where
  | attestation
  | settlement
deriving DecidableEq, Repr

namespace Phase

def text : Phase → String
  | .attestation => "attestation"
  | .settlement => "settlement"

def waiting : Phase → Status
  | .attestation => .pending
  | .settlement => .fetched

def retrying : Phase → Status
  | .attestation => .fetchFailed
  | .settlement => .submitFailed

end Phase

inductive SkipReason where
  | leased
  | backoff
  | notYetAvailable
  | versionConflict
deriving DecidableEq, Repr

inductive Outcome where
  | advanced
  | failed
  | skipped (reason : SkipReason)
deriving DecidableEq, Repr

/-! ## Summaries -/

structure Summary where
  succeeded : Nat := 0
  failed : Nat := 0
  skipped : Nat := 0
deriving DecidableEq, Repr

namespace Summary

def total (summary : Summary) : Nat :=
  summary.succeeded + summary.failed + summary.skipped

def hasActivity (summary : Summary) : Bool :=
  summary.succeeded > 0 || summary.failed > 0

def count (summary : Summary) : Outcome → Summary
  | .advanced => { summary with succeeded := summary.succeeded + 1 }
  | .failed => { summary with failed := summary.failed + 1 }
  | .skipped _ => { summary with skipped := summary.skipped + 1 }

def add (left right : Summary) : Summary :=
  { succeeded := left.succeeded + right.succeeded
    failed := left.failed + right.failed
    skipped := left.skipped + right.skipped }

def text (summary : Summary) : String :=
  s!"succeeded: {summary.succeeded}, failed: {summary.failed}, skipped: {summary.skipped}"

end Summary

/-! ## Before the call -/

inductive Decision where
  | skip (reason : SkipReason)
  | abandon (error : String)
  | attempt (call : Call) (limit : Duration) (leaseUntil : Nat)
  /-- The lease would end after the last representable time. -/
  | overflow
deriving DecidableEq, Repr

def exhaustedMessage (phase : Phase) (record : Redemption) : String :=
  s!"{phase.text} retry budget exhausted after {record.retryCount} attempts: " ++
    record.error.getD "unknown error"

def missingPayloadMessage : String :=
  "fetched redemption has no attestation payload"

namespace RetryPolicy

def timeout (policy : RetryPolicy) : Phase → Duration
  | .attestation => policy.fetchTimeout
  | .settlement => policy.submitTimeout

/-- The call that carries a record forward; settling needs the payload. -/
def call? (phase : Phase) (record : Redemption) : Option Call :=
  match phase with
  | .attestation => some (.fetch record.event.sourceTxHash)
  | .settlement => record.payload.map (.submit · record.event)

def decide (policy : RetryPolicy) (phase : Phase) (record : Redemption) (now : Nat) : Decision :=
  if record.isLeased now then .skip .leased
  else if policy.isExhausted record then .abandon (exhaustedMessage phase record)
  else if !record.backoffElapsed policy.backoff now then .skip .backoff
  else
    match call? phase record with
    | none => .abandon missingPayloadMessage
    | some call =>
        let limit := policy.timeout phase
        match policy.leaseUntil? limit now with
        | some leaseUntil => .attempt call limit leaseUntil
        | none => .overflow

/-! ## After the call -/

def concludeFetch (policy : RetryPolicy) (claimed : Redemption) (started : Nat) :
    Option AttestationResult → Mark × Outcome
  | none =>
      (.fetchFailed s!"attestation fetch timed out after {policy.fetchTimeout.text}", .failed)
  | some (.error error) => (.fetchFailed error.message, .failed)
  | some (.ok (.available payload)) => (.fetched payload, .advanced)
  | some (.ok (.permanentFailure reason)) =>
      (.failed s!"attestation permanently unavailable: {reason}", .failed)
  | some (.ok .notYetAvailable) =>
      if policy.isOverdue claimed started then
        let waited := started - claimed.dates.createdAt
        (.fetchFailed s!"attestation still unavailable {waited}s after the request", .failed)
      else (.release, .skipped .notYetAvailable)

def concludeSubmit (policy : RetryPolicy) : Option SettlementResult → Mark × Outcome
  | none =>
      (.submitFailed s!"settlement submission timed out after {policy.submitTimeout.text}", .failed)
  | some (.ok settlement) => (.completed settlement, .advanced)
  | some (.error error) =>
      if error.isPermanent then
        (.failed s!"settlement failed permanently: {error.message}", .failed)
      else (.submitFailed error.message, .failed)

def conclude (policy : RetryPolicy) (claimed : Redemption) (started : Nat) :
    (call : Call) → Option call.Reply → Mark × Outcome
  | .fetch _, reply => policy.concludeFetch claimed started reply
  | .submit _ _, reply => policy.concludeSubmit reply

end RetryPolicy

/-! ## The course of a batch -/

inductive BatchResult where
  | summary (summary : Summary)
  /-- The records could not be read; none was touched. -/
  | unreadable (error : StoreError)
  | overflow
deriving DecidableEq, Repr

structure Attempt where
  call : Call
  limit : Duration
  started : Nat
deriving DecidableEq, Repr

inductive Stage where
  | loading (loaded : List Redemption) (status : Status) (later : List Status)
  | admitting (record : Redemption) (queue : List Redemption)
  | claiming (record : Redemption) (leaseUntil : Nat) (attempt : Attempt) (queue : List Redemption)
  | leasing (claimed : Redemption) (attempt : Attempt) (queue : List Redemption)
  | calling (claimed : Redemption) (attempt : Attempt) (queue : List Redemption)
  | marking (record : Redemption) (mark : Mark) (outcome : Outcome) (queue : List Redemption)
  | logging (record : Redemption) (mark : Mark) (now : Nat) (outcome : Outcome)
      (queue : List Redemption)
  | committing (next : Redemption) (outcome : Outcome) (queue : List Redemption)
  | announcing (milestone : Milestone) (outcome : Outcome) (queue : List Redemption)
  | finished (result : BatchResult)
deriving DecidableEq, Repr

structure Batch where
  phase : Phase
  policy : RetryPolicy
  chain : Option String
  summary : Summary
  stage : Stage
deriving DecidableEq, Repr

namespace Batch

def start (phase : Phase) (policy : RetryPolicy) (chain : Option String) : Batch :=
  { phase := phase
    policy := policy
    chain := chain
    summary := {}
    stage := .loading [] phase.waiting [phase.retrying] }

def move (batch : Batch) (stage : Stage) : Batch :=
  { batch with stage := stage }

def proceed (batch : Batch) : List Redemption → Batch
  | [] => batch.move (.finished (.summary batch.summary))
  | record :: queue => batch.move (.admitting record queue)

def load (batch : Batch) (loaded : List Redemption) : List Status → Batch
  | [] => batch.proceed loaded
  | status :: later => batch.move (.loading loaded status later)

def close (batch : Batch) (outcome : Outcome) (queue : List Redemption) : Batch :=
  { batch with summary := batch.summary.count outcome }.proceed queue

def afterDecision (batch : Batch) (record : Redemption) (started : Nat)
    (queue : List Redemption) : Decision → Batch
  | .skip reason => batch.close (.skipped reason) queue
  | .abandon error => batch.move (.marking record (.failed error) .failed queue)
  | .attempt call limit leaseUntil =>
      batch.move (.claiming record leaseUntil ⟨call, limit, started⟩ queue)
  | .overflow => batch.move (.finished .overflow)

/-- A write that lost against another worker leaves the record to that worker. -/
def afterFailedWrite (batch : Batch) (queue : List Redemption) : StoreError → Batch
  | .versionConflict _ _ => batch.close (.skipped .versionConflict) queue
  | _ => batch.close .failed queue

def milestone? (record : Redemption) : Outcome → Option Milestone
  | .skipped _ => none
  | _ => Milestone.reached? record

def afterCommit (batch : Batch) (stored : Redemption) (outcome : Outcome)
    (queue : List Redemption) : Batch :=
  match milestone? stored outcome with
  | some milestone => batch.move (.announcing milestone outcome queue)
  | none => batch.close outcome queue

def next (batch : Batch) : Next Batch BatchResult :=
  match batch.stage with
  | .finished result => .done result
  | .loading loaded status later =>
      .ask (.listRecords status batch.chain) fun
        | .ok found => batch.load (loaded ++ found) later
        | .error error => batch.move (.finished (.unreadable error))
  | .admitting record queue =>
      .ask .readClock fun now =>
        batch.afterDecision record now queue (batch.policy.decide batch.phase record now)
  | .claiming record leaseUntil attempt queue =>
      .ask .readClock fun now =>
        batch.move (.leasing (record.claim leaseUntil now) attempt queue)
  | .leasing claimed attempt queue =>
      .ask (.update claimed claimed.version) fun
        | .ok version => batch.move (.calling { claimed with version := version } attempt queue)
        | .error error => batch.afterFailedWrite queue error
  | .calling claimed attempt queue =>
      .ask (.perform attempt.call attempt.limit) fun reply =>
        let (mark, outcome) := batch.policy.conclude claimed attempt.started attempt.call reply
        batch.move (.marking claimed mark outcome queue)
  | .marking record mark outcome queue =>
      .ask .readClock fun now => batch.move (.logging record mark now outcome queue)
  | .logging record mark now outcome queue =>
      .ask .readClock fun logged =>
        match record.apply mark now logged with
        | .ok next => batch.move (.committing next outcome queue)
        | .error _ => batch.close .failed queue
  | .committing record outcome queue =>
      .ask (.update record record.version) fun
        | .ok _ => batch.afterCommit record outcome queue
        | .error error => batch.afterFailedWrite queue error
  | .announcing milestone outcome queue =>
      .ask (.announce milestone) fun _ => batch.close outcome queue

/-! ## Batches end -/

def rank (batch : Batch) : Nat × Nat :=
  match batch.stage with
  | .loading _ _ later => (later.length + 1, 0)
  | .admitting _ queue => (0, 9 * queue.length + 8)
  | .claiming _ _ _ queue => (0, 9 * queue.length + 7)
  | .leasing _ _ queue => (0, 9 * queue.length + 6)
  | .calling _ _ queue => (0, 9 * queue.length + 5)
  | .marking _ _ _ queue => (0, 9 * queue.length + 4)
  | .logging _ _ _ _ queue => (0, 9 * queue.length + 3)
  | .committing _ _ queue => (0, 9 * queue.length + 2)
  | .announcing _ _ queue => (0, 9 * queue.length + 1)
  | .finished _ => (0, 0)

theorem rank_proceed_fst (batch : Batch) (queue : List Redemption) :
    (batch.proceed queue).rank.1 = 0 := by
  cases queue <;> rfl

theorem rank_proceed_snd (batch : Batch) (queue : List Redemption) :
    (batch.proceed queue).rank.2 ≤ 9 * queue.length := by
  cases queue with
  | nil => simp [proceed, move, rank]
  | cons record queue => simp only [proceed, move, rank, List.length_cons]; omega

theorem rank_load_fst (batch : Batch) (loaded : List Redemption) (later : List Status) :
    (batch.load loaded later).rank.1 ≤ later.length := by
  cases later with
  | nil => simp [load, rank_proceed_fst]
  | cons status later => simp [load, move, rank]

theorem rank_close (batch : Batch) (outcome : Outcome) (queue : List Redemption) :
    (batch.close outcome queue).rank.1 = 0 ∧
      (batch.close outcome queue).rank.2 ≤ 9 * queue.length :=
  ⟨rank_proceed_fst _ _, rank_proceed_snd _ _⟩

theorem rank_afterFailedWrite (batch : Batch) (queue : List Redemption) (error : StoreError) :
    (batch.afterFailedWrite queue error).rank.1 = 0 ∧
      (batch.afterFailedWrite queue error).rank.2 ≤ 9 * queue.length := by
  cases error <;> exact rank_close _ _ _

theorem descends_next (batch : Batch) (request : Request) (resume : request.Answer → Batch)
    (answer : request.Answer) (asks : batch.next = .ask request resume) :
    Descends (resume answer).rank batch.rank := by
  rcases batch with ⟨phase, policy, chain, summary, stage⟩
  cases stage with
  | finished result => simp [next] at asks
  | loading loaded status later =>
      simp only [next, Next.ask.injEq] at asks
      rcases asks with ⟨rfl, same⟩
      cases same
      left
      cases answer with
      | ok found => exact Nat.lt_succ_of_le (rank_load_fst _ _ _)
      | error error => exact Nat.succ_pos _
  | admitting record queue =>
      simp only [next, Next.ask.injEq] at asks
      rcases asks with ⟨rfl, same⟩
      cases same
      right
      dsimp only
      generalize policy.decide phase record answer = decision
      cases decision with
      | skip reason =>
          have closed := rank_close ⟨phase, policy, chain, summary, .admitting record queue⟩
            (.skipped reason) queue
          exact ⟨closed.1, Nat.lt_of_le_of_lt closed.2 (by simp [rank])⟩
      | abandon error => exact ⟨rfl, by simp [afterDecision, move, rank]⟩
      | attempt call limit leaseUntil => exact ⟨rfl, by simp [afterDecision, move, rank]⟩
      | overflow => exact ⟨rfl, by simp [afterDecision, move, rank]⟩
  | claiming record leaseUntil attempt queue =>
      simp only [next, Next.ask.injEq] at asks
      rcases asks with ⟨rfl, same⟩
      cases same
      exact Or.inr ⟨rfl, by simp [move, rank]⟩
  | leasing claimed attempt queue =>
      simp only [next, Next.ask.injEq] at asks
      rcases asks with ⟨rfl, same⟩
      cases same
      right
      cases answer with
      | ok version => exact ⟨rfl, by simp [move, rank]⟩
      | error error =>
          have failed := rank_afterFailedWrite
            ⟨phase, policy, chain, summary, .leasing claimed attempt queue⟩ queue error
          exact ⟨failed.1, Nat.lt_of_le_of_lt failed.2 (by simp [rank])⟩
  | calling claimed attempt queue =>
      simp only [next, Next.ask.injEq] at asks
      rcases asks with ⟨rfl, same⟩
      cases same
      exact Or.inr ⟨rfl, by simp [move, rank]⟩
  | marking record mark outcome queue =>
      simp only [next, Next.ask.injEq] at asks
      rcases asks with ⟨rfl, same⟩
      cases same
      exact Or.inr ⟨rfl, by simp [move, rank]⟩
  | logging record mark now outcome queue =>
      simp only [next, Next.ask.injEq] at asks
      rcases asks with ⟨rfl, same⟩
      cases same
      right
      dsimp only
      cases record.apply mark now answer with
      | ok moved => exact ⟨rfl, by simp [move, rank]⟩
      | error error =>
          have closed := rank_close
            ⟨phase, policy, chain, summary, .logging record mark now outcome queue⟩ .failed queue
          exact ⟨closed.1, Nat.lt_of_le_of_lt closed.2 (by simp [rank])⟩
  | committing record outcome queue =>
      simp only [next, Next.ask.injEq] at asks
      rcases asks with ⟨rfl, same⟩
      cases same
      right
      cases answer with
      | ok version =>
          dsimp only [afterCommit]
          cases milestone? record outcome with
          | some milestone => exact ⟨rfl, by simp [move, rank]⟩
          | none =>
              have closed := rank_close
                ⟨phase, policy, chain, summary, .committing record outcome queue⟩ outcome queue
              exact ⟨closed.1, Nat.lt_of_le_of_lt closed.2 (by simp [rank])⟩
      | error error =>
          have failed := rank_afterFailedWrite
            ⟨phase, policy, chain, summary, .committing record outcome queue⟩ queue error
          exact ⟨failed.1, Nat.lt_of_le_of_lt failed.2 (by simp [rank])⟩
  | announcing milestone outcome queue =>
      simp only [next, Next.ask.injEq] at asks
      rcases asks with ⟨rfl, same⟩
      cases same
      have closed := rank_close
        ⟨phase, policy, chain, summary, .announcing milestone outcome queue⟩ outcome queue
      exact Or.inr ⟨closed.1, Nat.lt_of_le_of_lt closed.2 (by simp [rank])⟩

instance : Activity Batch BatchResult where
  next := next
  rank := rank
  descends := descends_next

end Batch

end RedemptionRelay
