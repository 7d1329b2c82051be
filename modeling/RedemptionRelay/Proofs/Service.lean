import RedemptionRelay.Proofs.Activity
import RedemptionRelay.Service

/-! # One batch after the other

The batches of a tick are carried out in their order, up to the first that
breaks off.
-/

namespace RedemptionRelay.ServiceSettings

variable {World : Type} (surroundings : Surroundings World) (policy : RetryPolicy)

theorem runBatches_step (report : TickReport) (world : World) (phase : Phase) (chain : String)
    (rest : List (Phase × String)) :
    runBatches surroundings policy report world ((phase, chain) :: rest) =
      let ran := Activity.run surroundings world (Batch.start phase policy (some chain))
      match report.addBatch? phase ran.1 with
      | some report => runBatches surroundings policy report ran.2 rest
      | none => (none, ran.2) :=
  rfl

theorem runBatches_append (report : TickReport) (world : World)
    (first second : List (Phase × String)) :
    runBatches surroundings policy report world (first ++ second) =
      match runBatches surroundings policy report world first with
      | (some report, world) => runBatches surroundings policy report world second
      | (none, world) => (none, world) := by
  induction first generalizing report world with
  | nil => rfl
  | cons batch rest induction =>
      rw [List.cons_append, runBatches_step, runBatches_step]
      dsimp only
      cases report.addBatch? batch.1 _ with
      | none => rfl
      | some added => exact induction added _

/-- Where batches break off, `lastPhase` is the phase of the one that does. -/
theorem overflow_of_runBatches {report : TickReport} {world : World}
    {batches : List (Phase × String)} (last : Phase)
    (broken : (runBatches surroundings policy report world batches).1 = none) :
    ∃ before chain,
      Activity.run surroundings before
          (Batch.start (lastPhase surroundings policy last world batches) policy (some chain)) =
        (.overflow, (runBatches surroundings policy report world batches).2) := by
  induction batches generalizing report world last with
  | nil => cases broken
  | cons batch rest induction =>
      rcases batch with ⟨phase, chain⟩
      rw [runBatches_step] at broken ⊢
      unfold lastPhase
      rcases ran : Activity.run surroundings world (Batch.start phase policy (some chain)) with
        ⟨summary | error | _, after⟩
      · rw [ran] at broken
        exact induction phase broken
      · rw [ran] at broken
        exact induction phase broken
      · exact ⟨world, chain, ran⟩

section

variable {surroundings} {world : World} (Holds : World → Prop)
  (kept : ∀ world request, Holds world → Holds (surroundings world request).2)
  (holds : Holds world)
include kept holds

theorem holds_runBatches (report : TickReport) (batches : List (Phase × String)) :
    Holds (runBatches surroundings policy report world batches).2 := by
  induction batches generalizing report world with
  | nil => exact holds
  | cons batch rest induction =>
      have ran : Holds (Activity.run surroundings world
          (Batch.start batch.1 policy (some batch.2))).2 :=
        Activity.holds_run Holds kept holds
      rw [runBatches_step]
      dsimp only
      split
      · exact induction ran _
      · exact ran

theorem holds_tick (settings : ServiceSettings) : Holds (settings.tick surroundings world).2 :=
  holds_runBatches settings.policy Holds kept holds {} settings.batches

end

end RedemptionRelay.ServiceSettings
