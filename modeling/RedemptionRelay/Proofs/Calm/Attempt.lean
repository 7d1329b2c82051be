import RedemptionRelay.Proofs.Calm
import RedemptionRelay.Proofs.Course
import RedemptionRelay.Proofs.Decision
import RedemptionRelay.Proofs.Redemption.Budget

/-! # One record in a calm world

In a calm world a batch brings a record forward unless it has to wait after a
failure. A copy of a record that has been replaced since comes to nothing.
-/

namespace RedemptionRelay

namespace Calm

variable {σ : Type} [Store σ] {circumstances : Circumstances} {world before after : Calm σ}
  {policy : RetryPolicy} {phase : Phase} {record claimed stored next : Redemption}

structure Spares (before after : Calm σ) : Prop where
  store : after.store = before.store
  passes : before.clock ≤ after.clock

structure Writes [LawfulStore σ] (before after : Calm σ) (next : Redemption) : Prop where
  sound : LawfulStore.Sound after.store
  passes : before.clock ≤ after.clock
  records : ∀ id, LawfulStore.record? after.store id =
    if id = next.id then some next else LawfulStore.record? before.store id

omit [Store σ] in
theorem Spares.of_turn (spares : Spares (world.turn circumstances) after) : Spares world after :=
  ⟨spares.store, Nat.le_trans clock_le_turn spares.passes⟩

theorem Writes.of_turn [LawfulStore σ] (writes : Writes (world.turn circumstances) after next) :
    Writes world after next :=
  ⟨writes.sound, Nat.le_trans clock_le_turn writes.passes, writes.records⟩

/-! ## The conclusion of an attempt -/

theorem conclude_answer (record : Redemption) (mark : Mark) (outcome : Outcome) :
    Batch.conclude (answer circumstances) record mark outcome world =
      let marked := world.turn circumstances
      let logged := marked.turn circumstances
      let written := logged.turn circumstances
      match record.apply mark marked.seconds logged.seconds with
      | .error _ => (.failed, logged)
      | .ok next =>
          match Store.update world.store next next.version with
          | .error error => (Batch.loss error, written)
          | .ok (_, store) =>
              (outcome,
                if (Batch.milestone? next outcome).isSome then
                  (written.holding store).turn circumstances
                else written.holding store) := by
  dsimp only [Batch.conclude, answer, store_turn]
  cases record.apply mark _ _ with
  | error error => rfl
  | ok next =>
      dsimp only
      cases Store.update world.store next next.version with
      | error error => rfl
      | ok written =>
          dsimp only
          cases Batch.milestone? next outcome <;> rfl

theorem passes_conclude (record : Redemption) (mark : Mark) (outcome : Outcome) :
    ((world.turn circumstances).turn circumstances).clock ≤
      (Batch.conclude (answer circumstances) record mark outcome world).2.clock := by
  rw [conclude_answer]
  dsimp only
  split
  · exact Nat.le_refl _
  · split
    · exact clock_le_turn
    · dsimp only
      split
      · exact Nat.le_trans clock_le_turn clock_le_turn
      · exact clock_le_turn

theorem store_conclude {mark : Mark} {outcome : Outcome} {store : σ} {version : Nat}
    (applied : record.apply mark (world.turn circumstances).seconds
      ((world.turn circumstances).turn circumstances).seconds = .ok next)
    (lands : Store.update world.store next next.version = .ok (version, store)) :
    (Batch.conclude (answer circumstances) record mark outcome world).2.store = store := by
  rw [conclude_answer]
  dsimp only
  rw [applied]
  dsimp only
  rw [lands]
  dsimp only
  split <;> rfl

variable [LawfulStore σ]

theorem conclude_of_stale {mark : Mark} {outcome : Outcome} (sound : LawfulStore.Sound world.store)
    (found : LawfulStore.record? world.store record.id = some stored)
    (stale : stored.version ≠ record.version) (fits : record.version < Width.bound64) :
    Spares world (Batch.conclude (answer circumstances) record mark outcome world).2 := by
  refine ⟨?_, Nat.le_trans (Nat.le_trans clock_le_turn clock_le_turn) (passes_conclude ..)⟩
  rw [conclude_answer]
  dsimp only
  split
  · rfl
  · next next changed =>
      have request := Redemption.sameRequest_of_apply changed
      have version := Redemption.version_of_apply changed
      rw [LawfulStore.update_of_stale sound (version ▸ fits) (request.id ▸ found) (version ▸ stale)]
      rfl

theorem conclude_of_current {mark : Mark} {outcome : Outcome}
    (sound : LawfulStore.Sound world.store)
    (found : LawfulStore.record? world.store claimed.id = some claimed)
    (holds : RetryPolicy.Holds record claimed) (alive : record.status.isTerminal = false)
    (moves : mark.target?.isSome)
    (edge : ∀ target ∈ mark.target?, claimed.status.canBecome target = true)
    (fewer : ∀ now logged next, claimed.apply mark now logged = .ok next →
      policy.attemptsLeft next < policy.attemptsLeft record)
    (retriesFit : mark.retries record.retryCount < Width.bound32)
    (versionFits : claimed.version + 1 < Width.bound64)
    (timeFits : (Batch.conclude (answer circumstances) claimed mark outcome world).2.seconds <
      Width.bound64) :
    ∃ next, policy.Advances
        (Batch.conclude (answer circumstances) claimed mark outcome world).2.seconds record next ∧
      Writes world (Batch.conclude (answer circumstances) claimed mark outcome world).2 next := by
  let marked := world.turn circumstances
  let logged := marked.turn circumstances
  have passes : logged.clock ≤
      (Batch.conclude (answer circumstances) claimed mark outcome world).2.clock :=
    passes_conclude ..
  have loggedFits : logged.seconds < Width.bound64 := Nat.lt_of_le_of_lt (seconds_le passes) timeFits
  have inTime : marked.seconds ≤ logged.seconds := seconds_le clock_le_turn
  have ⟨changed, applied⟩ : ∃ changed,
      claimed.apply mark marked.seconds logged.seconds = .ok changed :=
    Redemption.exists_apply_of_canBecome edge
  have advances := RetryPolicy.advances_of_apply holds alive (fewer _ _ _ applied) moves applied
    (Nat.lt_of_le_of_lt inTime loggedFits) loggedFits retriesFit versionFits inTime
  have request := Redemption.sameRequest_of_apply applied
  have version := Redemption.version_of_apply applied
  rcases LawfulStore.update_of_current sound advances.inRange (request.id ▸ found) request with
    ⟨store, lands, soundAfter, records⟩
  rw [← version] at lands
  have stored : (Batch.conclude (answer circumstances) claimed mark outcome world).2.store = store :=
    store_conclude applied lands
  refine ⟨_, advances.mono (seconds_le passes), ?_, Nat.le_trans ?_ passes, ?_⟩
  · rw [stored]
    exact soundAfter
  · exact Nat.le_trans clock_le_turn clock_le_turn
  · rw [stored]
    exact records

/-! ## The claim and the call -/

def calling (world : Calm σ) (circumstances : Circumstances) (call : Call) : Calm σ :=
  { world.turn circumstances with calls := world.calls ++ [call] }

omit [LawfulStore σ] in
theorem pursue_answer (record : Redemption) (leaseUntil : Nat) (attempt : Attempt) :
    Batch.pursue (answer circumstances) policy record leaseUntil attempt world =
      let claiming := world.turn circumstances
      let written := claiming.turn circumstances
      let claimed := record.claim leaseUntil claiming.seconds
      match Store.update world.store claimed record.version with
      | .error error => (Batch.loss error, written)
      | .ok (version, store) =>
          let claimed := { claimed with version := version }
          let reply := circumstances.reply written.answers attempt.call
          let concluded := policy.conclude claimed attempt.started attempt.call reply
          Batch.conclude (answer circumstances) claimed concluded.1 concluded.2
            ((written.holding store).calling circumstances attempt.call) := by
  dsimp only [Batch.pursue, answer, store_turn]
  have sameVersion : (record.claim leaseUntil (world.turn circumstances).seconds).version =
      record.version := rfl
  rw [sameVersion]
  cases Store.update world.store _ record.version <;> rfl

omit [LawfulStore σ] in
theorem passes_pursue (record : Redemption) (leaseUntil : Nat) (attempt : Attempt) :
    (world.turn circumstances).clock ≤
      (Batch.pursue (answer circumstances) policy record leaseUntil attempt world).2.clock := by
  rw [pursue_answer]
  dsimp only
  split
  · exact clock_le_turn
  · refine Nat.le_trans ?_ (passes_conclude ..)
    exact Nat.le_trans clock_le_turn (Nat.le_trans clock_le_turn
      (Nat.le_trans clock_le_turn clock_le_turn))

theorem pursue_of_stale {leaseUntil : Nat} {attempt : Attempt}
    (sound : LawfulStore.Sound world.store)
    (found : LawfulStore.record? world.store record.id = some stored)
    (stale : stored.version ≠ record.version) (fits : record.version < Width.bound64) :
    Spares world (Batch.pursue (answer circumstances) policy record leaseUntil attempt world).2 := by
  refine ⟨?_, Nat.le_trans clock_le_turn (passes_pursue ..)⟩
  have refused : Store.update world.store
      (record.claim leaseUntil (world.turn circumstances).seconds) record.version =
        .error (.versionConflict record.id record.version) :=
    LawfulStore.update_of_stale sound fits found stale
  rw [pursue_answer]
  dsimp only
  rw [refused]
  rfl

theorem Writes.trans {between : Calm σ} {last : Redemption} (first : Writes before between next)
    (second : Writes between after last) (sameId : last.id = next.id) :
    Writes before after last where
  sound := second.sound
  passes := Nat.le_trans first.passes second.passes
  records id := by
    rw [second.records, first.records, sameId]
    split <;> rfl

theorem claim_of_current {leaseUntil : Nat} (call : Call) (sound : LawfulStore.Sound world.store)
    (current : LawfulStore.record? world.store record.id = some record) :
    let claim := record.claim leaseUntil (world.turn circumstances).seconds
    { claim with version := record.version + 1 }.InRange →
      ∃ store, Store.update world.store claim record.version = .ok (record.version + 1, store) ∧
        Writes world
          ((((world.turn circumstances).turn circumstances).holding store).calling circumstances
            call)
          { claim with version := record.version + 1 } := by
  intro claim inRange
  have request : claim.SameRequest record := ⟨rfl, rfl, rfl, rfl⟩
  rcases LawfulStore.update_of_current sound inRange (request.id ▸ current) request with
    ⟨store, lands, soundAfter, records⟩
  exact ⟨store, lands, soundAfter,
    Nat.le_trans clock_le_turn (Nat.le_trans clock_le_turn clock_le_turn), records⟩

theorem conclude_of_claimed {call : Call} {limit : Duration} {now leaseUntil claimedAt : Nat}
    (reads : phase.Reads record) (steady : policy.Steady now record)
    (attempts : policy.Attempts phase record now call limit leaseUntil)
    (retriesFit : policy.maxRetries + 1 < Width.bound32) (reply : Option call.Reply) :
    let claimed := { record.claim leaseUntil claimedAt with version := record.version + 1 }
    let concluded := policy.conclude claimed now call reply
    let after :=
      (Batch.conclude (answer circumstances) claimed concluded.1 concluded.2 world).2
    LawfulStore.Sound world.store →
      LawfulStore.record? world.store claimed.id = some claimed →
        RetryPolicy.Holds record claimed → after.seconds < Width.bound64 →
          ∃ next, policy.Advances after.seconds record next ∧ Writes world after next := by
  intro claimed concluded after sound found holds timeFits
  have overdue : phase = .attestation → policy.isOverdue claimed now = true := by
    rintro rfl
    exact steady.isOverdue reads
  have concludes : phase.concludes concluded.1 = true :=
    RetryPolicy.concludes_conclude attempts.isCall overdue
  have readsClaimed : phase.Reads claimed := reads
  have sameAttempts : policy.attemptsLeft claimed = policy.attemptsLeft record :=
    RetryPolicy.attemptsLeft_congr rfl rfl
  have retriesLeft : record.retryCount ≤ policy.maxRetries :=
    RetryPolicy.retryCount_le_of_reads steady.consistent reads attempts.retriesLeft
  have fewer : ∀ now logged next, claimed.apply concluded.1 now logged = .ok next →
      policy.attemptsLeft next < policy.attemptsLeft record := by
    intro now logged next changed
    rw [← sameAttempts]
    exact RetryPolicy.attemptsLeft_lt_of_apply readsClaimed retriesLeft concludes changed
  have retries : concluded.1.retries record.retryCount < Width.bound32 :=
    Nat.lt_of_le_of_lt (Mark.retries_le ..) (by omega)
  exact conclude_of_current sound found holds reads.alive
    (RetryPolicy.isSome_target?_of_concludes concludes)
    (RetryPolicy.canBecome_of_concludes readsClaimed concludes) fewer retries
    (steady.room_of_alive reads.alive) timeFits

theorem pursue_of_current {call : Call} {limit : Duration} {leaseUntil : Nat}
    (sound : LawfulStore.Sound world.store)
    (current : LawfulStore.record? world.store record.id = some record)
    (reads : phase.Reads record) (steady : policy.Steady world.seconds record)
    (attempts : policy.Attempts phase record world.seconds call limit leaseUntil)
    (retriesFit : policy.maxRetries + 1 < Width.bound32) :
    let after := (Batch.pursue (answer circumstances) policy record leaseUntil
      ⟨call, limit, world.seconds⟩ world).2
    after.seconds + policy.holdSeconds (policy.timeout phase) ≤ Redemption.maxTime →
      ∃ next, policy.Advances after.seconds record next ∧ Writes world after next := by
  intro after inTime
  let claiming := world.turn circumstances
  have passes : claiming.clock ≤ after.clock := passes_pursue ..
  have timeFits : after.seconds < Width.bound64 :=
    Redemption.lt_bound64_of_le_maxTime (Nat.le_of_add_right_le inTime)
  have claimFits : claiming.seconds < Width.bound64 := Nat.lt_of_le_of_lt (seconds_le passes) timeFits
  have leaseFits : leaseUntil < Width.bound64 := by
    rw [attempts.isLease, attempts.isLimit]
    exact Redemption.lt_bound64_of_le_maxTime
      (Nat.le_trans (Nat.add_le_add_right (seconds_le (Nat.le_trans clock_le_turn passes)) _) inTime)
  have holds := RetryPolicy.holds_claim steady.consistent steady.inRange reads.alive claimFits
    leaseFits (Nat.lt_of_succ_lt (steady.room_of_alive reads.alive))
  rcases claim_of_current call sound current holds.inRange with ⟨store, lands, claims⟩
  dsimp only [after] at timeFits ⊢
  rw [pursue_answer] at timeFits ⊢
  dsimp only at timeFits ⊢
  rw [lands] at timeFits ⊢
  rcases conclude_of_claimed reads steady attempts retriesFit _ claims.sound
    ((claims.records _).trans (if_pos rfl)) holds timeFits with ⟨next, advances, writes⟩
  exact ⟨next, advances, claims.trans writes advances.request.id⟩

theorem abandon_of_current {error : String} (sound : LawfulStore.Sound world.store)
    (current : LawfulStore.record? world.store record.id = some record)
    (reads : phase.Reads record) (steady : policy.Steady world.seconds record)
    (timeFits : (Batch.conclude (answer circumstances) record (.failed error) .failed
      world).2.seconds < Width.bound64) :
    ∃ next, policy.Advances (Batch.conclude (answer circumstances) record (.failed error) .failed
        world).2.seconds record next ∧
      Writes world (Batch.conclude (answer circumstances) record (.failed error) .failed world).2
        next := by
  have fewer : ∀ now logged next, record.apply (.failed error) now logged = .ok next →
      policy.attemptsLeft next < policy.attemptsLeft record := by
    intro now logged next changed
    rw [RetryPolicy.attemptsLeft_failed changed]
    exact RetryPolicy.attemptsLeft_pos reads.alive
  have edge : ∀ target ∈ (Mark.failed error).target?, record.status.canBecome target = true := by
    rintro target ⟨⟩
    exact reads.canFail
  exact conclude_of_current sound current
    (RetryPolicy.holds_self steady.consistent steady.inRange) reads.alive rfl edge fewer
    steady.inRange.2.1 (Nat.lt_of_succ_lt (steady.room_of_alive reads.alive)) timeFits

/-! ## From the decision to the conclusion -/

omit [LawfulStore σ] in
theorem attend_answer (record : Redemption) :
    Batch.attend (answer circumstances) phase policy record world =
      let deciding := world.turn circumstances
      match policy.decide phase record deciding.seconds with
      | .skip reason => (some (.skipped reason), deciding)
      | .abandon error =>
          (Batch.conclude (answer circumstances) record (.failed error) .failed deciding).map some id
      | .attempt call limit leaseUntil =>
          (Batch.pursue (answer circumstances) policy record leaseUntil
            ⟨call, limit, deciding.seconds⟩ deciding).map some id
      | .overflow => (none, deciding) :=
  rfl

theorem attend_of_stale (sound : LawfulStore.Sound world.store)
    (found : LawfulStore.record? world.store record.id = some stored)
    (stale : stored.version ≠ record.version) (fits : record.version < Width.bound64)
    (inTime : (Batch.attend (answer circumstances) phase policy record world).2.seconds +
      policy.holdSeconds (policy.timeout phase) ≤ Redemption.maxTime) :
    ∃ outcome after, Batch.attend (answer circumstances) phase policy record world =
      (some outcome, after) ∧ Spares world after := by
  rw [attend_answer] at inTime ⊢
  dsimp only at inTime ⊢
  cases decided : policy.decide phase record (world.turn circumstances).seconds with
  | skip reason => exact ⟨_, _, rfl, rfl, clock_le_turn⟩
  | overflow =>
      rw [decided] at inTime
      exact absurd (RetryPolicy.late_of_decide decided) (Nat.not_lt.mpr inTime)
  | abandon error =>
      exact ⟨_, _, rfl, .of_turn (conclude_of_stale sound found stale fits)⟩
  | attempt call limit leaseUntil =>
      exact ⟨_, _, rfl, .of_turn (pursue_of_stale sound found stale fits)⟩

theorem attend_of_current (sound : LawfulStore.Sound world.store)
    (current : LawfulStore.record? world.store record.id = some record)
    (reads : phase.Reads record) (steady : policy.Steady world.seconds record)
    (retriesFit : policy.maxRetries + 1 < Width.bound32)
    (inTime : (Batch.attend (answer circumstances) phase policy record world).2.seconds +
      policy.holdSeconds (policy.timeout phase) ≤ Redemption.maxTime) :
    ∃ outcome after, Batch.attend (answer circumstances) phase policy record world =
        (some outcome, after) ∧
      ((¬ policy.Rested world.seconds record ∧ Spares world after) ∨
        ∃ next, policy.Advances after.seconds record next ∧ Writes world after next) := by
  let deciding := world.turn circumstances
  have passes : world.seconds ≤ deciding.seconds := seconds_le clock_le_turn
  have steady := steady.mono passes
  have sound : LawfulStore.Sound deciding.store := sound
  have current : LawfulStore.record? deciding.store record.id = some record := current
  rw [attend_answer] at inTime ⊢
  dsimp only at inTime ⊢
  cases decided : policy.decide phase record deciding.seconds with
  | skip reason =>
      refine ⟨_, _, rfl, .inl ⟨fun rested => ?_, rfl, clock_le_turn⟩⟩
      rcases RetryPolicy.leased_or_waiting_of_decide decided with leased | waiting
      · exact absurd leased (by simp [steady.isLeased])
      · exact absurd waiting (by simp [(rested.mono passes).backoffElapsed])
  | overflow =>
      rw [decided] at inTime
      exact absurd (RetryPolicy.late_of_decide decided) (Nat.not_lt.mpr inTime)
  | abandon error =>
      rw [decided] at inTime
      have ⟨next, advances, writes⟩ := abandon_of_current sound current reads steady
        (Redemption.lt_bound64_of_le_maxTime (Nat.le_of_add_right_le inTime))
      exact ⟨_, _, rfl, .inr ⟨next, advances, writes.of_turn⟩⟩
  | attempt call limit leaseUntil =>
      rw [decided] at inTime
      have ⟨next, advances, writes⟩ := pursue_of_current sound current reads steady
        (RetryPolicy.attempts_of_decide decided) retriesFit inTime
      exact ⟨_, _, rfl, .inr ⟨next, advances, writes.of_turn⟩⟩

end Calm

end RedemptionRelay
