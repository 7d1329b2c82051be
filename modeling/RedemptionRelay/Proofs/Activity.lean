import RedemptionRelay.Activity

/-! # One request at a time

An activity that is carried to its end answers one request and is carried on
from there.
-/

namespace RedemptionRelay.Activity

variable {World State Result : Type} [Activity State Result] {surroundings : Surroundings World}
  {world : World} {state : State}

theorem run_of_done {result : Result} (ended : next state = .done result) :
    run surroundings world state = (result, world) := by
  rw [run]
  split
  · next other isDone =>
      cases ended.symm.trans isDone
      rfl
  · next request resume isAsking => cases ended.symm.trans isAsking

theorem run_of_ask {request : Request} {resume : request.Answer → State}
    (asks : next state = .ask request resume) :
    run surroundings world state =
      run surroundings (surroundings world request).2 (resume (surroundings world request).1) := by
  rw [run]
  split
  · next other isDone => cases asks.symm.trans isDone
  · next request' resume' isAsking =>
      cases asks.symm.trans isAsking
      rfl

/-- What no answer to a request of the activity breaks holds of the world at the
end. -/
theorem holds_run_of_asked (Holds : World → Prop)
    (kept : ∀ world (state : State) request resume, next state = .ask request resume →
      Holds world → Holds (surroundings world request).2)
    (holds : Holds world) : Holds (run surroundings world state).2 := by
  fun_induction run surroundings world state with
  | case1 => exact holds
  | case2 world state request resume asks answer world' answered induction =>
      have after := kept world state request resume asks holds
      rw [answered] at after
      exact induction after

theorem holds_run (Holds : World → Prop)
    (kept : ∀ world request, Holds world → Holds (surroundings world request).2)
    (holds : Holds world) : Holds (run surroundings world state).2 :=
  holds_run_of_asked Holds (fun world _ request _ _ => kept world request) holds

/-- Worlds that answer alike as long as they are related come to the same result,
and are related at the end. -/
theorem related_run (surroundings : Surroundings World) {left right : World}
    (Related : World → World → State → Prop)
    (alike : ∀ left right state request resume, Related left right state →
      next state = .ask request resume →
        (surroundings left request).1 = (surroundings right request).1 ∧
          Related (surroundings left request).2 (surroundings right request).2
            (resume (surroundings left request).1))
    (related : Related left right state) :
    (run surroundings left state).1 = (run surroundings right state).1 ∧
      ∃ last, Related (run surroundings left state).2 (run surroundings right state).2 last := by
  fun_induction run surroundings left state generalizing right with
  | case1 left state result ended =>
      rw [run_of_done ended]
      exact ⟨rfl, state, related⟩
  | case2 left state request resume asks answer left' answered induction =>
      rcases alike left right state request resume related asks with ⟨sameAnswer, after⟩
      rw [answered] at sameAnswer after
      rw [run_of_ask asks, ← sameAnswer]
      exact induction after

end RedemptionRelay.Activity
