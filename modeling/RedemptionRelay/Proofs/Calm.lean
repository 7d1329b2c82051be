import RedemptionRelay.Intake
import RedemptionRelay.Proofs.Activity
import RedemptionRelay.Proofs.Store.Lawful

/-! # Calm worlds

In a calm world one worker is alone with a store that never fails. The clock
goes on before every answer by any length of time, and a call has any reply or
none. What has been called is kept.
-/

namespace RedemptionRelay

structure Circumstances where
  /-- Nanoseconds until the answer. -/
  duration : Nat → Nat
  reply : Nat → (call : Call) → Option call.Reply

structure Calm (σ : Type) where
  store : σ
  /-- Nanoseconds since the start of 1970. -/
  clock : Nat
  answers : Nat := 0
  /-- Oldest first. -/
  calls : List Call := []

namespace Calm

variable {σ : Type}

def seconds (world : Calm σ) : Nat :=
  world.clock / Duration.nanosecondsPerSecond

def elapse (world : Calm σ) (nanoseconds : Nat) : Calm σ :=
  { world with clock := world.clock + nanoseconds }

def turn (world : Calm σ) (circumstances : Circumstances) : Calm σ :=
  { world.elapse (circumstances.duration world.answers) with answers := world.answers + 1 }

def holding (world : Calm σ) (store : σ) : Calm σ :=
  { world with store := store }

def answer [Store σ] (circumstances : Circumstances) : Surroundings (Calm σ) :=
  fun world request =>
    let next := world.turn circumstances
    match request with
    | .listRecords status chain => (Store.withStatus world.store status chain, next)
    | .readClock => (next.seconds, next)
    | .create record =>
        match Store.create world.store record with
        | .ok (creation, store) => (.ok creation, next.holding store)
        | .error error => (.error error, next)
    | .update record expected =>
        match Store.update world.store record expected with
        | .ok (version, store) => (.ok version, next.holding store)
        | .error error => (.error error, next)
    | .perform call _ =>
        (circumstances.reply world.answers call, { next with calls := world.calls ++ [call] })
    | .announce _ => ((), next)

/-! ## Time -/

variable {world : Calm σ} {circumstances : Circumstances}

@[simp]
theorem store_turn : (world.turn circumstances).store = world.store :=
  rfl

theorem clock_le_turn : world.clock ≤ (world.turn circumstances).clock :=
  Nat.le_add_right _ _

theorem seconds_le {earlier later : Calm σ} (clock : earlier.clock ≤ later.clock) :
    earlier.seconds ≤ later.seconds :=
  Nat.div_le_div_right clock

theorem clock_le_answer [Store σ] (request : Request) :
    world.clock ≤ (answer circumstances world request).2.clock := by
  have passed : world.clock ≤ (world.turn circumstances).clock := clock_le_turn
  cases request with
  | create record =>
      dsimp only [answer]
      split <;> exact passed
  | update record expected =>
      dsimp only [answer]
      split <;> exact passed
  | listRecords | readClock | perform | announce => exact passed

theorem clock_le_run [Store σ] {State Result : Type} [Activity State Result] (state : State) :
    world.clock ≤ (Activity.run (answer circumstances) world state).2.clock :=
  Activity.holds_run (fun later : Calm σ => world.clock ≤ later.clock)
    (fun _ request passed => Nat.le_trans passed (clock_le_answer request)) (Nat.le_refl _)

end Calm

end RedemptionRelay
