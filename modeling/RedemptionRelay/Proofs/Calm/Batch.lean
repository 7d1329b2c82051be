import RedemptionRelay.Proofs.Calm.Attempt

/-! # A batch in a calm world

A batch attends to the records of its chain in its phase. Each of them is
attended to once, even if it was read twice: the second copy is out of date by
then. All other records stay as they are.
-/

namespace RedemptionRelay

namespace Calm

variable {σ : Type} [Store σ] {circumstances : Circumstances}
  {world before between after : Calm σ} {policy : RetryPolicy} {phase : Phase}
  {record next : Redemption} {queue : List Redemption}

/-! ## Time -/

theorem passes_attend (record : Redemption) :
    world.clock ≤ (Batch.attend (answer circumstances) phase policy record world).2.clock := by
  rw [attend_answer]
  dsimp only
  have passes : world.clock ≤ (world.turn circumstances).clock := clock_le_turn
  cases policy.decide phase record (world.turn circumstances).seconds with
  | skip | overflow => exact passes
  | abandon error =>
      exact Nat.le_trans passes (Nat.le_trans (Nat.le_trans clock_le_turn clock_le_turn)
        (passes_conclude ..))
  | attempt call limit leaseUntil =>
      exact Nat.le_trans passes (Nat.le_trans clock_le_turn (passes_pursue ..))

theorem passes_attendAll (summary : Summary) (queue : List Redemption) :
    world.clock ≤
      (Batch.attendAll (answer circumstances) phase policy summary queue world).2.clock := by
  induction queue generalizing world summary with
  | nil => exact Nat.le_refl _
  | cons record queue induction =>
      have passes : world.clock ≤
          (Batch.attend (answer circumstances) phase policy record world).2.clock :=
        passes_attend record
      unfold Batch.attendAll
      rcases attended : Batch.attend (answer circumstances) phase policy record world with
        ⟨_ | outcome, between⟩
      · rw [attended] at passes
        exact passes
      · rw [attended] at passes
        exact Nat.le_trans passes (induction _)

/-! ## The queue -/

variable [LawfulStore σ]

/-- A record that was read is stored as it was, or has been replaced since. -/
inductive Queued (policy : RetryPolicy) (world : Calm σ) (record : Redemption) : Prop where
  | current (found : LawfulStore.record? world.store record.id = some record)
      (steady : policy.Steady world.seconds record)
  | stale {stored : Redemption} (found : LawfulStore.record? world.store record.id = some stored)
      (older : record.version < stored.version)

theorem Queued.of_spares (queued : Queued policy before record) (spares : Spares before after) :
    Queued policy after record := by
  cases queued with
  | current found steady =>
      exact .current (spares.store ▸ found) (steady.mono (seconds_le spares.passes))
  | stale found older => exact .stale (spares.store ▸ found) older

theorem Queued.older {other : Redemption} {now : Nat} (queued : Queued policy before other)
    (current : LawfulStore.record? before.store record.id = some record)
    (advances : policy.Advances now record next) (same : other.id = record.id) :
    other.version < next.version := by
  cases queued with
  | current found steady =>
      cases (same ▸ found).symm.trans current
      exact advances.newer
  | stale found older =>
      cases (same ▸ found).symm.trans current
      exact Nat.lt_trans older advances.newer

theorem Queued.of_writes {other : Redemption} (queued : Queued policy before other)
    (current : LawfulStore.record? before.store record.id = some record)
    (advances : policy.Advances after.seconds record next) (writes : Writes before after next) :
    Queued policy after other := by
  by_cases same : other.id = record.id
  · have stored : LawfulStore.record? after.store other.id = some next :=
      (writes.records _).trans (if_pos (same.trans advances.request.id.symm))
    exact .stale stored (queued.older current advances same)
  · have stored : LawfulStore.record? after.store other.id =
        LawfulStore.record? before.store other.id :=
      (writes.records _).trans (if_neg fun equal => same (equal.trans advances.request.id))
    cases queued with
    | current found steady =>
        exact .current (stored.trans found) (steady.mono (seconds_le writes.passes))
    | stale found older => exact .stale (stored.trans found) older

/-- What attending to a queue comes to. -/
structure Attends (policy : RetryPolicy) (queue : List Redemption) (before after : Calm σ) :
    Prop where
  sound : LawfulStore.Sound after.store
  passes : before.clock ≤ after.clock
  records : ∀ id, LawfulStore.record? after.store id = LawfulStore.record? before.store id ∨
    ∃ record ∈ queue, ∃ next, LawfulStore.record? before.store id = some record ∧
      LawfulStore.record? after.store id = some next ∧ policy.Advances after.seconds record next
  reaches : ∀ record ∈ queue, LawfulStore.record? before.store record.id = some record →
    policy.Rested before.seconds record →
      ∃ next, LawfulStore.record? after.store record.id = some next ∧
        policy.Advances after.seconds record next

theorem Attends.cons_of_spares (spares : Spares before between)
    (waits : LawfulStore.record? before.store record.id = some record →
      ¬ policy.Rested before.seconds record)
    (attends : Attends policy queue between after) :
    Attends policy (record :: queue) before after where
  sound := attends.sound
  passes := Nat.le_trans spares.passes attends.passes
  records id := by
    rw [← spares.store]
    rcases attends.records id with same | ⟨other, among, moved⟩
    · exact .inl same
    · exact .inr ⟨other, List.mem_cons_of_mem _ among, moved⟩
  reaches other among current rested := by
    rcases List.mem_cons.mp among with rfl | behind
    · exact absurd rested (waits current)
    · exact attends.reaches other behind (spares.store ▸ current)
        (rested.mono (seconds_le spares.passes))

theorem Attends.cons_of_writes
    (current : LawfulStore.record? before.store record.id = some record)
    (advances : policy.Advances between.seconds record next) (writes : Writes before between next)
    (attends : Attends policy queue between after)
    (older : ∀ other ∈ queue, other.id = record.id → other.version < next.version) :
    Attends policy (record :: queue) before after := by
  have written : LawfulStore.record? between.store record.id = some next :=
    (writes.records _).trans (if_pos advances.request.id.symm)
  have others (id : String) (different : id ≠ record.id) :
      LawfulStore.record? between.store id = LawfulStore.record? before.store id :=
    (writes.records id).trans (if_neg fun equal => different (equal.trans advances.request.id))
  have stays : LawfulStore.record? after.store record.id = some next := by
    rcases attends.records record.id with same | ⟨other, among, _, isNext, -⟩
    · exact same.trans written
    · cases written.symm.trans isNext
      exact absurd (older _ among advances.request.id) (Nat.lt_irrefl _)
  have moved := advances.mono (seconds_le attends.passes)
  refine ⟨attends.sound, Nat.le_trans writes.passes attends.passes, ?_, ?_⟩
  · intro id
    by_cases same : id = record.id
    · exact .inr ⟨record, List.mem_cons_self, next, same ▸ current, same ▸ stays, moved⟩
    · rw [← others id same]
      rcases attends.records id with unchanged | ⟨other, among, moves⟩
      · exact .inl unchanged
      · exact .inr ⟨other, List.mem_cons_of_mem _ among, moves⟩
  · intro other among found rested
    by_cases same : other.id = record.id
    · cases (same ▸ found).symm.trans current
      exact ⟨next, stays, moved⟩
    · rcases List.mem_cons.mp among with rfl | behind
      · exact absurd rfl same
      · exact attends.reaches other behind ((others _ same).trans found)
          (rested.mono (seconds_le writes.passes))

theorem attends_attendAll (summary : Summary) (sound : LawfulStore.Sound world.store)
    (retriesFit : policy.maxRetries + 1 < Width.bound32)
    (reads : ∀ record ∈ queue, phase.Reads record ∧ record.version < Width.bound64)
    (queued : ∀ record ∈ queue, Queued policy world record)
    (inTime : (Batch.attendAll (answer circumstances) phase policy summary queue world).2.seconds +
      policy.holdSeconds (policy.timeout phase) ≤ Redemption.maxTime) :
    ∃ total after, Batch.attendAll (answer circumstances) phase policy summary queue world =
      (.summary total, after) ∧ Attends policy queue world after := by
  induction queue generalizing world summary with
  | nil =>
      exact ⟨summary, world, rfl, sound, Nat.le_refl _, fun _ => .inl rfl, by simp⟩
  | cons record queue induction =>
      have readsHere := reads record List.mem_cons_self
      have readsBehind := fun other among => reads other (List.mem_cons_of_mem _ among)
      have queuedBehind := fun other among => queued other (List.mem_cons_of_mem _ among)
      unfold Batch.attendAll at inTime ⊢
      have inTimeHere : (Batch.attend (answer circumstances) phase policy record world).2.seconds +
          policy.holdSeconds (policy.timeout phase) ≤ Redemption.maxTime := by
        rcases attended : Batch.attend (answer circumstances) phase policy record world with
          ⟨_ | outcome, between⟩
        · rw [attended] at inTime
          exact inTime
        · rw [attended] at inTime
          exact Nat.le_trans (Nat.add_le_add_right (seconds_le (passes_attendAll ..)) _) inTime
      cases queued record List.mem_cons_self with
      | stale found older =>
          rcases attend_of_stale sound found (Nat.ne_of_gt older) readsHere.2 inTimeHere with
            ⟨outcome, between, attended, spares⟩
          rw [attended] at inTime ⊢
          have queuedAfter := fun other among => (queuedBehind other among).of_spares spares
          rcases induction _ (spares.store ▸ sound) readsBehind queuedAfter inTime with
            ⟨total, after, finished, attends⟩
          refine ⟨total, after, finished, attends.cons_of_spares spares fun current => ?_⟩
          cases found.symm.trans current
          exact absurd older (Nat.lt_irrefl _)
      | current found steady =>
          rcases attend_of_current sound found readsHere.1 steady retriesFit inTimeHere with
            ⟨outcome, between, attended, effect⟩
          rw [attended] at inTime ⊢
          rcases effect with ⟨waits, spares⟩ | ⟨next, advances, writes⟩
          · have queuedAfter := fun other among => (queuedBehind other among).of_spares spares
            rcases induction _ (spares.store ▸ sound) readsBehind queuedAfter inTime with
              ⟨total, after, finished, attends⟩
            exact ⟨total, after, finished, attends.cons_of_spares spares fun _ => waits⟩
          · have queuedAfter := fun other among =>
              (queuedBehind other among).of_writes found advances writes
            rcases induction _ writes.sound readsBehind queuedAfter inTime with
              ⟨total, after, finished, attends⟩
            exact ⟨total, after, finished, attends.cons_of_writes found advances writes
              fun other among => (queuedBehind other among).older found advances⟩

/-! ## The batch -/

/-- Every record that has not ended goes on. -/
structure Steady (policy : RetryPolicy) (world : Calm σ) : Prop where
  sound : LawfulStore.Sound world.store
  records : ∀ id record, LawfulStore.record? world.store id = some record →
    record.status.isTerminal = false → policy.Steady world.seconds record

/-- What a batch comes to. -/
structure Carries (policy : RetryPolicy) (phase : Phase) (chain : String)
    (before after : Calm σ) : Prop where
  sound : LawfulStore.Sound after.store
  passes : before.clock ≤ after.clock
  records : ∀ id, LawfulStore.record? after.store id = LawfulStore.record? before.store id ∨
    ∃ record next, LawfulStore.record? before.store id = some record ∧ record.chain = chain ∧
      phase.Reads record ∧ LawfulStore.record? after.store id = some next ∧
      policy.Advances after.seconds record next
  reaches : ∀ id record, LawfulStore.record? before.store id = some record →
    record.chain = chain → phase.Reads record → policy.Rested before.seconds record →
      ∃ next, LawfulStore.record? after.store id = some next ∧
        policy.Advances after.seconds record next

theorem Carries.steady {chain : String} (carries : Carries policy phase chain before after)
    (steady : before.Steady policy) : after.Steady policy where
  sound := carries.sound
  records id record found alive := by
    have passes := seconds_le carries.passes
    rcases carries.records id with same | ⟨record', next, found', -, -, foundNext, advances⟩
    · exact (steady.records id record (same ▸ found) alive).mono passes
    · cases foundNext.symm.trans found
      exact advances.steady (steady.records id record' found' advances.alive) passes

theorem Attends.carries {chain : String} {waiting retrying : List Redemption}
    (sound : LawfulStore.Sound before.store)
    (memWaiting : ∀ record, record ∈ waiting ↔
      LawfulStore.record? before.store record.id = some record ∧ record.status = phase.waiting ∧
        matchesChain (some chain) record.chain = true)
    (memRetrying : ∀ record, record ∈ retrying ↔
      LawfulStore.record? before.store record.id = some record ∧ record.status = phase.retrying ∧
        matchesChain (some chain) record.chain = true)
    (reading : Spares before between)
    (attends : Attends policy (waiting ++ retrying) between after) :
    Carries policy phase chain before after where
  sound := attends.sound
  passes := Nat.le_trans reading.passes attends.passes
  records id := by
    rw [← reading.store]
    rcases attends.records id with same | ⟨record, among, next, found, moved⟩
    · exact .inl same
    · rw [List.mem_append, memWaiting, memRetrying] at among
      rcases among with ⟨-, status, matching⟩ | ⟨-, status, matching⟩
      · exact .inr ⟨record, next, found, by simpa [matchesChain] using matching, .inl status, moved⟩
      · exact .inr ⟨record, next, found, by simpa [matchesChain] using matching, .inr status, moved⟩
  reaches id record found ofChain reads rested := by
    have sameId := LawfulStore.id_of_record? sound found
    subst sameId
    have matching : matchesChain (some chain) record.chain = true := by simp [matchesChain, ofChain]
    have among : record ∈ waiting ++ retrying := by
      rw [List.mem_append, memWaiting, memRetrying]
      exact reads.imp (⟨found, ·, matching⟩) (⟨found, ·, matching⟩)
    exact attends.reaches record among (reading.store ▸ found)
      (rested.mono (seconds_le reading.passes))

theorem carries_run (chain : String) (steady : world.Steady policy)
    (retriesFit : policy.maxRetries + 1 < Width.bound32)
    (inTime : (Activity.run (answer circumstances) world
        (Batch.start phase policy (some chain))).2.seconds +
      policy.holdSeconds (policy.timeout phase) ≤ Redemption.maxTime) :
    ∃ total after, Activity.run (answer circumstances) world
        (Batch.start phase policy (some chain)) = (.summary total, after) ∧
      Carries policy phase chain world after := by
  let read := (world.turn circumstances).turn circumstances
  have reading : Spares world read := ⟨rfl, Nat.le_trans clock_le_turn clock_le_turn⟩
  have ⟨waiting, listsWaiting, memWaiting⟩ :=
    LawfulStore.withStatus_of_sound phase.waiting (some chain) steady.sound
  have ⟨retrying, listsRetrying, memRetrying⟩ :=
    LawfulStore.withStatus_of_sound phase.retrying (some chain) steady.sound
  have course : Activity.run (answer circumstances) world (Batch.start phase policy (some chain)) =
      Batch.attendAll (answer circumstances) phase policy {} (waiting ++ retrying) read := by
    rw [Batch.run_start]
    dsimp only [answer, store_turn]
    rw [listsWaiting]
    dsimp only [store_turn]
    rw [listsRetrying]
  have stored : ∀ record ∈ waiting ++ retrying,
      LawfulStore.record? world.store record.id = some record ∧ phase.Reads record := by
    intro record among
    rcases List.mem_append.mp among with first | second
    · exact ⟨((memWaiting record).mp first).1, .inl ((memWaiting record).mp first).2.1⟩
    · exact ⟨((memRetrying record).mp second).1, .inr ((memRetrying record).mp second).2.1⟩
  have steadyThere : ∀ record ∈ waiting ++ retrying, policy.Steady world.seconds record :=
    fun record among => steady.records _ record (stored record among).1 (stored record among).2.alive
  have queued : ∀ record ∈ waiting ++ retrying, Queued policy read record :=
    fun record among => .current (stored record among).1
      ((steadyThere record among).mono (seconds_le reading.passes))
  have soundThere : LawfulStore.Sound read.store := steady.sound
  rw [course] at inTime ⊢
  have ⟨total, after, finished, attends⟩ := attends_attendAll {} soundThere retriesFit
    (fun record among => ⟨(stored record among).2, (steadyThere record among).inRange.2.2.2.1⟩)
    queued inTime
  exact ⟨total, after, finished, attends.carries steady.sound memWaiting memRetrying reading⟩

end Calm

end RedemptionRelay
