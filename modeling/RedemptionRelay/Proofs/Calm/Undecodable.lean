import RedemptionRelay.Proofs.Answers
import RedemptionRelay.Proofs.Calm
import RedemptionRelay.Proofs.Store.Undecodable

/-! # Batches pass over undecodable rows

A batch writes no record but those that it has read, and what stands in a row
that stands for no record is never read. So the same batch goes the same way
over two tables that differ in such rows only, and leaves these rows alone.
-/

namespace RedemptionRelay

/-! ## What a batch carries -/

def Stage.records : Stage → List Redemption
  | .loading loaded _ _ => loaded
  | .admitting record queue | .claiming record _ _ queue | .leasing record _ queue
  | .calling record _ queue | .marking record _ _ queue | .logging record _ _ _ queue
  | .committing record _ queue => record :: queue
  | .announcing _ _ queue => queue
  | .finished _ => []

def Request.found : (request : Request) → request.Answer → List Redemption
  | .listRecords _ _, .ok records => records
  | _, _ => []

namespace Batch

variable {batch next : Batch} {request : Request} {answer : request.Answer}
  {queue : List Redemption} {record : Redemption} {outcome : Outcome}

theorem records_proceed : (batch.proceed queue).stage.records = queue := by
  cases queue <;> rfl

theorem records_load {later : List Status} : (batch.load queue later).stage.records = queue := by
  cases later with
  | nil => exact records_proceed
  | cons status later => rfl

theorem records_close : (batch.close outcome queue).stage.records = queue :=
  records_proceed

theorem records_afterFailedWrite {error : StoreError} :
    (batch.afterFailedWrite queue error).stage.records = queue := by
  cases error <;> exact records_close

theorem records_afterCommit : (batch.afterCommit record outcome queue).stage.records = queue := by
  dsimp only [afterCommit]
  cases milestone? record outcome with
  | some milestone => rfl
  | none => exact records_close

theorem known_of_answered {Known : String → Prop} (answered : batch.Answered request answer next)
    (known : ∀ record ∈ batch.stage.records, Known record.id)
    (found : ∀ record ∈ request.found answer, Known record.id) :
    ∀ record ∈ next.stage.records, Known record.id := by
  have here {record : Redemption} {queue : List Redemption}
      (carried : batch.stage.records = record :: queue) :
      Known record.id ∧ ∀ other ∈ queue, Known other.id :=
    List.forall_mem_cons.mp (carried ▸ known)
  cases answered with
  | read stage =>
      rw [records_load]
      rw [stage] at known
      exact List.forall_mem_append.mpr ⟨known, found⟩
  | unread => exact fun _ among => absurd among List.not_mem_nil
  | @admitted record queue now stage =>
      have carried := here (congrArg Stage.records stage)
      cases batch.policy.decide batch.phase record now with
      | skip reason =>
          dsimp only [afterDecision]
          rw [records_close]
          exact carried.2
      | abandon error => exact List.forall_mem_cons.mpr carried
      | attempt call limit leaseUntil => exact List.forall_mem_cons.mpr carried
      | overflow => exact fun _ among => absurd among List.not_mem_nil
  | claimed stage | leased stage =>
      have carried := here (congrArg Stage.records stage)
      exact List.forall_mem_cons.mpr carried
  | replied stage | marked stage =>
      exact List.forall_mem_cons.mpr (here (congrArg Stage.records stage))
  | logged stage changed =>
      have carried := here (congrArg Stage.records stage)
      rw [← (Redemption.sameRequest_of_apply changed).id] at carried
      exact List.forall_mem_cons.mpr carried
  | forbidden stage _ =>
      rw [records_close]
      exact (here (congrArg Stage.records stage)).2
  | committed stage =>
      rw [records_afterCommit]
      exact (here (congrArg Stage.records stage)).2
  | unleased stage | uncommitted stage =>
      rw [records_afterFailedWrite]
      exact (here (congrArg Stage.records stage)).2
  | announced stage =>
      rw [records_close]
      rw [stage] at known
      exact known

theorem mem_records_of_update {expected : Nat}
    {resume : (Request.update record expected).Answer → Batch}
    (asks : batch.next = .ask (.update record expected) resume) :
    record ∈ batch.stage.records := by
  have answered := answered_of_next asks (.ok 0)
  generalize resume (.ok 0) = next at answered
  cases answered with
  | leased stage | committed stage =>
      rw [stage]
      exact List.mem_cons_self

theorem asks_no_create {resume : (Request.create record).Answer → Batch}
    (asks : batch.next = .ask (.create record) resume) : False := by
  have answered := answered_of_next asks (.ok .created)
  generalize resume (.ok .created) = next at answered
  cases answered

end Batch

/-! ## Side by side -/

namespace Calm

open TableStore

variable {left right : TableStore} {leftWorld rightWorld : Calm TableStore} {batch : Batch}
  {circumstances : Circumstances} {request : Request}

theorem answer_update_of_ok {σ : Type} [Store σ] {world : Calm σ} {record : Redemption}
    {expected version : Nat} {store : σ}
    (updates : Store.update world.store record expected = .ok (version, store)) :
    answer circumstances world (.update record expected) =
      (.ok version, (world.turn circumstances).holding store) := by
  unfold answer
  dsimp only
  rw [updates]

theorem answer_update_of_error {σ : Type} [Store σ] {world : Calm σ} {record : Redemption}
    {expected : Nat} {error : StoreError}
    (refuses : Store.update world.store record expected = .error error) :
    answer circumstances world (.update record expected) =
      (.error error, world.turn circumstances) := by
  unfold answer
  dsimp only
  rw [refuses]

/-- What the two worlds hold is what they held at first, rewritten alike, and
only records are in work that stood in a row then. -/
structure Alike (left right : TableStore) (leftWorld rightWorld : Calm TableStore) (batch : Batch)
    (rewrite : Row → Row) : Prop where
  leftSpares : TableStore.Spares rewrite left
  rightSpares : TableStore.Spares rewrite right
  leftStore : leftWorld.store = left.rewritten rewrite
  rightWorld : rightWorld = leftWorld.holding (right.rewritten rewrite)
  known : ∀ record ∈ batch.stage.records, left.Names record.id

namespace Alike

variable {rewrite : Row → Row}

theorem start (phase : Phase) (policy : RetryPolicy) (chain : Option String)
    (world : Calm TableStore) :
    Alike left right (world.holding left) (world.holding right) (Batch.start phase policy chain)
      fun row => row where
  leftSpares := .refl left
  rightSpares := .refl right
  leftStore := (left.rewritten_id).symm
  rightWorld := by rw [right.rewritten_id]; rfl
  known _ among := absurd among List.not_mem_nil

theorem answer (agree : left.AgreesWith right)
    (alike : Alike left right leftWorld rightWorld batch rewrite)
    {resume : request.Answer → Batch} (asks : batch.next = .ask request resume) :
    (answer circumstances leftWorld request).1 = (answer circumstances rightWorld request).1 ∧
      ∃ rewrite', Alike left right (answer circumstances leftWorld request).2
        (answer circumstances rightWorld request).2
        (resume (answer circumstances leftWorld request).1) rewrite' := by
  rcases alike with ⟨leftSpares, rightSpares, leftStore, rfl, known⟩
  have carried (answer : request.Answer)
      (found : ∀ record ∈ request.found answer, left.Names record.id) :
      ∀ record ∈ (resume answer).stage.records, left.Names record.id :=
    Batch.known_of_answered (Batch.answered_of_next asks answer) known found
  cases request with
  | listRecords status chain =>
      have same : Store.withStatus leftWorld.store status chain =
          Store.withStatus (right.rewritten rewrite) status chain := by
        rw [leftStore]
        exact congrArg Except.ok (withStatus_of_perm (leftSpares.distinct agree.leftKept)
          (TableStore.Spares.perm_decodable agree leftSpares rightSpares) status chain)
      refine ⟨same, rewrite, leftSpares, rightSpares, leftStore, rfl, carried _ ?_⟩
      intro record listed
      replace listed : record ∈ leftWorld.store.withStatus status chain := listed
      rw [leftStore] at listed
      exact leftSpares.names (names_of_listed listed)
  | readClock =>
      exact ⟨rfl, rewrite, leftSpares, rightSpares, leftStore, rfl,
        carried _ fun _ among => absurd among List.not_mem_nil⟩
  | perform call limit =>
      exact ⟨rfl, rewrite, leftSpares, rightSpares, leftStore, rfl,
        carried _ fun _ among => absurd among List.not_mem_nil⟩
  | announce milestone =>
      exact ⟨rfl, rewrite, leftSpares, rightSpares, leftStore, rfl,
        carried _ fun _ among => absurd among List.not_mem_nil⟩
  | create record => exact (Batch.asks_no_create asks).elim
  | update record expected =>
      have named := known record (Batch.mem_records_of_update asks)
      have leftUpdates := leftSpares.update agree.leftKept named expected
      have rightUpdates := rightSpares.update agree.rightKept (agree.names named) expected
      rw [← agree.same.any_eq] at rightUpdates
      rw [← leftStore] at leftUpdates
      have stillKnown (answer : Except StoreError Nat) :
          ∀ record ∈ (resume answer).stage.records, left.Names record.id :=
        carried answer fun _ among => absurd among List.not_mem_nil
      split at leftUpdates
      · next lands =>
          rw [if_pos lands] at rightUpdates
          rw [answer_update_of_ok leftUpdates, answer_update_of_ok rightUpdates]
          exact ⟨rfl, _, leftSpares.written agree.leftKept named,
            rightSpares.written agree.rightKept (agree.names named), rfl, rfl, stillKnown _⟩
      · next stale =>
          rw [if_neg stale] at rightUpdates
          rw [answer_update_of_error leftUpdates, answer_update_of_error rightUpdates]
          exact ⟨rfl, rewrite, leftSpares, rightSpares, leftStore, rfl, stillKnown _⟩

end Alike

/-- Both batches have gone the same way and made the same of the same rows. -/
structure SameCourse (left right : TableStore) (leftRun rightRun : BatchResult × Calm TableStore) :
    Prop where
  result : leftRun.1 = rightRun.1
  calls : leftRun.2.calls = rightRun.2.calls
  clock : leftRun.2.clock = rightRun.2.clock
  decodable : leftRun.2.store.decodable.Perm rightRun.2.store.decodable
  rewritten : ∃ rewrite, TableStore.Spares rewrite left ∧ TableStore.Spares rewrite right ∧
    leftRun.2.store = left.rewritten rewrite ∧ rightRun.2.store = right.rewritten rewrite

theorem sameCourse_run (agree : left.AgreesWith right) (circumstances : Circumstances)
    (world : Calm TableStore) (phase : Phase) (policy : RetryPolicy) (chain : Option String) :
    let batch := Batch.start phase policy chain
    SameCourse left right (Activity.run (answer circumstances) (world.holding left) batch)
      (Activity.run (answer circumstances) (world.holding right) batch) := by
  intro batch
  have ran := Activity.related_run (answer circumstances)
    (fun leftWorld rightWorld batch => ∃ rewrite, Alike left right leftWorld rightWorld batch rewrite)
    (fun _ _ _ _ _ ⟨_, alike⟩ asks => alike.answer agree asks)
    ⟨_, Alike.start phase policy chain world⟩
  rcases ran with ⟨sameResult, last, rewrite, alike⟩
  rcases alike with ⟨leftSpares, rightSpares, leftStore, rightWorld, -⟩
  refine ⟨sameResult, ?_, ?_, ?_, rewrite, leftSpares, rightSpares, leftStore, ?_⟩
  · rw [rightWorld]; rfl
  · rw [rightWorld]; rfl
  · rw [leftStore, rightWorld]
    exact TableStore.Spares.perm_decodable agree leftSpares rightSpares
  · rw [rightWorld]; rfl

/-- A table lists the rows that stand for records, and nothing that a batch does
or says depends on the others. -/
theorem undecodable_rows_passed_over {table : TableStore} (kept : table.WellKept) :
    (∀ status chain, ∃ records, Store.withStatus table status chain = .ok records ∧
      table.Lists status chain records) ∧
    ∀ other : TableStore, other.WellKept → table.decodable.Perm other.decodable →
      ∀ (circumstances : Circumstances) (world : Calm TableStore) (phase : Phase)
        (policy : RetryPolicy) (chain : Option String),
        let batch := Batch.start phase policy chain
        SameCourse table other (Activity.run (answer circumstances) (world.holding table) batch)
          (Activity.run (answer circumstances) (world.holding other) batch) :=
  ⟨fun status chain => ⟨_, rfl, lists_withStatus kept status chain⟩,
    fun _ otherKept same => sameCourse_run ⟨kept, otherKept, same⟩⟩

/-- A row with torn logs stands before the only record, and in the other table
one without an identifier behind it. -/
theorem undecodable_rows_passed_over_around_record :
    let record := Redemption.observed "sepolia"
      { walletPubKeyHash := "", mainUtxo := ⟨"ü", 1, 2⟩, redeemerOutputScript := "0x76",
        amount := 5, sourceTxHash := "0xa1" } 7 8
    let torn := { Row.ofRecord { record with id := "0xa0" } with logs := .text "[" }
    let nameless := { Row.ofRecord record with id := .null, version := .blob [1] }
    let table : TableStore := { rows := [torn, Row.ofRecord record] }
    let other : TableStore := { rows := [Row.ofRecord record, nameless] }
    let world : Calm TableStore := { store := {}, clock := 9 * Duration.nanosecondsPerSecond }
    let circumstances : Circumstances := { duration := fun _ => 1, reply := fun _ _ => none }
    let batch := Batch.start .attestation {} none
    table.decodable = [Row.ofRecord record] ∧ other.decodable = [Row.ofRecord record] ∧
      SameCourse table other (Activity.run (answer circumstances) (world.holding table) batch)
        (Activity.run (answer circumstances) (world.holding other) batch) := by
  intro record torn nameless table other world circumstances batch
  have kept : table.WellKept := ⟨by decide +kernel, by decide +kernel⟩
  have otherKept : other.WellKept := ⟨by decide +kernel, by decide +kernel⟩
  have reads : (Row.ofRecord record).isDecodable = true := by
    rw [Row.isDecodable, Row.record?_ofRecord (by decide)]
    rfl
  have tornFails : torn.isDecodable = false := by decide +kernel
  have namelessFails : nameless.isDecodable = false := by decide +kernel
  have decodable : table.decodable = [Row.ofRecord record] := by
    simp only [TableStore.decodable, table, List.filter_cons, List.filter_nil, reads, tornFails,
      if_true, Bool.false_eq_true, if_false]
  have otherDecodable : other.decodable = [Row.ofRecord record] := by
    simp only [TableStore.decodable, other, List.filter_cons, List.filter_nil, reads,
      namelessFails, if_true, Bool.false_eq_true, if_false]
  have same : table.decodable.Perm other.decodable := by rw [decodable, otherDecodable]
  exact ⟨decodable, otherDecodable,
    (undecodable_rows_passed_over kept).2 other otherKept same circumstances world _ _ _⟩

end Calm

end RedemptionRelay
