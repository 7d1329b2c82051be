import Mathlib.Data.List.Forall2
import RedemptionRelay.Intake.Channel
import RedemptionRelay.Proofs.Activity

/-! # The intake loses nothing

However senders, the shutdown and the intake take turns, and whatever the store
answers: what was sent is handed over in the order of the channel, each event
once and before the next one is taken, and is counted once. The intake ends only
when nothing more can come, and nothing keeps it from ending then.
-/

namespace RedemptionRelay

/-! ## What a move does -/

namespace IntakeLoop

/-- One case for each kind of move, with what made it possible. -/
inductive Moves (loop : IntakeLoop) : List IntakeDeed → IntakeLoop → Prop where
  | cloned {index : Nat} {sender : Sender} (there : loop.channel.senders[index]? = some sender)
      (held : sender.isGone = false) :
      Moves loop [] { loop with
        channel := { loop.channel with senders := loop.channel.senders ++ [.idle] } }
  | began {index : Nat} {event : RawEvent} (idle : loop.channel.senders[index]? = some .idle) :
      Moves loop [.began index event]
        { loop with channel := loop.channel.set index (.waiting event) }
  | admitted {index : Nat} {event : RawEvent} (isOpen : loop.channel.isClosed = false)
      (waits : loop.channel.senders[index]? = some (.waiting event)) :
      Moves loop [] { loop with channel := loop.channel.set index (.admitted event) }
  | sent {index : Nat} {event : RawEvent}
      (hasPlace : loop.channel.senders[index]? = some (.admitted event)) :
      Moves loop [.sent index event]
        { loop with
          channel := { loop.channel.set index .idle with
            queue := loop.channel.queue ++ [event] } }
  | gaveUp {index : Nat} {sender : Sender} (there : loop.channel.senders[index]? = some sender)
      (held : sender.isGone = false) :
      Moves loop [] { loop with channel := loop.channel.set index .idle }
  | left {index : Nat} (idle : loop.channel.senders[index]? = some .idle) :
      Moves loop [] { loop with channel := loop.channel.set index .gone }
  | signalled : Moves loop [] { loop with isSignalled := true }
  | handed {event : RawEvent} {queue : List RawEvent} (running : loop.isFinished = false)
      (free : loop.current = none) (first : loop.channel.queue = event :: queue) :
      Moves loop [.handed event]
        { loop with
          channel := { loop.channel with queue := queue }
          current := some (Intake.start loop.listener event) }
  | closed (running : loop.isFinished = false) (free : loop.current = none)
      (unnoticed : loop.isDraining = false) :
      Moves loop [.closed] { loop with channel := loop.channel.close, isDraining := true }
  | answered {work : Intake} {request : Request} {resume : request.Answer → Intake}
      (atHand : loop.current = some work) (asks : work.next = .ask request resume)
      (answer : request.Answer) :
      Moves loop [.answered] { loop with current := some (resume answer) }
  | recorded {work : Intake} {result : IntakeResult} (atHand : loop.current = some work)
      (done : work.next = .done result) :
      Moves loop [.recorded result]
        { loop with current := none, statistics := loop.statistics.count result }
  | returned (running : loop.isFinished = false) (free : loop.current = none)
      (exhausted : loop.channel.isOver = true) :
      Moves loop [.returned] { loop with channel := loop.channel.close, isFinished := true }

variable {loop next : IntakeLoop} {move : IntakeMove} {deeds : List IntakeDeed}

theorem moves_of_sender {index : Nat} {move : SenderMove} {channel : IntakeChannel}
    (moved : loop.channel.move? index move = some (channel, deeds)) :
    loop.Moves deeds { loop with channel := channel } := by
  unfold IntakeChannel.move? at moved
  split at moved
  · next there =>
      cases moved
      exact .cloned there rfl
  · next there =>
      cases moved
      exact .cloned there rfl
  · next there =>
      cases moved
      exact .cloned there rfl
  · next event idle =>
      cases moved
      exact .began idle
  · next event waits =>
      split at moved
      · next hasRoom =>
          cases moved
          have isOpen : loop.channel.isClosed = false := by
            simp only [IntakeChannel.hasRoom, Bool.and_eq_true, Bool.not_eq_true'] at hasRoom
            exact hasRoom.1
          exact .admitted isOpen waits
      · cases moved
  · next event hasPlace =>
      cases moved
      exact .sent hasPlace
  · next there =>
      cases moved
      exact .gaveUp there rfl
  · next there =>
      cases moved
      exact .gaveUp there rfl
  · next idle =>
      cases moved
      exact .left idle
  · cases moved

theorem moves_of_step? (step : loop.step? move = some (next, deeds)) : loop.Moves deeds next := by
  cases move with
  | sender index move =>
      rcases Option.map_eq_some_iff.mp step with ⟨⟨channel, deeds'⟩, moved, same⟩
      cases same
      exact moves_of_sender moved
  | signal =>
      cases step
      exact .signalled
  | takeEvent =>
      simp only [step?] at step
      split at step
      · cases step
      · next free =>
          simp only [Bool.or_eq_true, not_or, Bool.not_eq_true, Option.isSome_eq_false_iff,
            Option.isNone_iff_eq_none] at free
          split at step
          · next event queue first =>
              cases step
              exact .handed free.1 free.2 first
          · cases step
  | takeSignal =>
      simp only [step?] at step
      split at step
      · cases step
      · next free =>
          simp only [Bool.or_eq_true, not_or, Bool.not_eq_true, Option.isSome_eq_false_iff,
            Option.isNone_iff_eq_none] at free
          cases step
          exact .closed free.1.1.1 free.1.1.2 free.1.2
  | answer reply =>
      simp only [step?] at step
      split at step
      · next work atHand =>
          split at step
          · next request resume asks =>
              cases step
              exact .answered atHand asks (reply request)
          · cases step
      · cases step
  | record =>
      simp only [step?] at step
      split at step
      · next work atHand =>
          split at step
          · cases step
          · next result done =>
              cases step
              exact .recorded atHand done
      · cases step
  | finish =>
      simp only [step?] at step
      split at step
      · next free =>
          simp only [Bool.and_eq_true, Bool.not_eq_true', Option.isNone_iff_eq_none] at free
          cases step
          exact .returned free.1.1 free.1.2 free.2
      · cases step

end IntakeLoop

/-! ## What can be seen of a run -/

namespace IntakeDeed

def sent? : IntakeDeed → Option RawEvent
  | .sent _ event => some event
  | _ => none

def handed? : IntakeDeed → Option RawEvent
  | .handed event => some event
  | _ => none

def result? : IntakeDeed → Option IntakeResult
  | .recorded result => some result
  | _ => none

def isOwn : IntakeDeed → Bool
  | .began _ _ | .sent _ _ => false
  | _ => true

end IntakeDeed

namespace IntakeLoop

def sentIn (deeds : List IntakeDeed) : List RawEvent :=
  deeds.filterMap IntakeDeed.sent?

def handedIn (deeds : List IntakeDeed) : List RawEvent :=
  deeds.filterMap IntakeDeed.handed?

def resultsIn (deeds : List IntakeDeed) : List IntakeResult :=
  deeds.filterMap IntakeDeed.result?

/-- The intake with its listener, and any number of senders who have not begun. -/
def start (listener : Listener) (senders : Nat) : IntakeLoop :=
  { listener := listener, channel := { senders := List.replicate senders .idle } }

/-- Any number of moves, and what has been seen of them. -/
inductive Run (start : IntakeLoop) : List IntakeDeed → IntakeLoop → Prop where
  | rest : Run start [] start
  | move {deeds new : List IntakeDeed} {loop next : IntakeLoop} (move : IntakeMove)
      (run : Run start deeds loop) (step : loop.step? move = some (next, new)) :
      Run start (deeds ++ new) next

variable {listener : Listener} {senders : Nat} {deeds : List IntakeDeed} {loop next : IntakeLoop}

theorem handedIn_append (earlier later : List IntakeDeed) :
    handedIn (earlier ++ later) = handedIn earlier ++ handedIn later :=
  List.filterMap_append ..

theorem sentIn_append (earlier later : List IntakeDeed) :
    sentIn (earlier ++ later) = sentIn earlier ++ sentIn later :=
  List.filterMap_append ..

theorem resultsIn_append (earlier later : List IntakeDeed) :
    resultsIn (earlier ++ later) = resultsIn earlier ++ resultsIn later :=
  List.filterMap_append ..

theorem Run.one {new : List IntakeDeed} {move : IntakeMove}
    (step : loop.step? move = some (next, new)) : Run loop new next :=
  .move move .rest step

theorem Run.trans {later : List IntakeDeed} {last : IntakeLoop} (run : Run loop deeds next)
    (goesOn : Run next later last) : Run loop (deeds ++ later) last := by
  induction goesOn with
  | rest => exact (List.append_nil deeds).symm ▸ run
  | move move _ step induction => exact List.append_assoc .. ▸ induction.move move step

/-! ## First in, first out -/

theorem Moves.conserves {new : List IntakeDeed} (moves : loop.Moves new next) :
    handedIn new ++ next.channel.queue = loop.channel.queue ++ sentIn new := by
  cases moves with
  | sent => rfl
  | handed _ _ first => exact first ▸ (List.append_nil _).symm
  | cloned | began | admitted | gaveUp | left | signalled | closed | answered | recorded
  | returned => exact (List.append_nil _).symm

theorem Run.conserves (run : Run (start listener senders) deeds loop) :
    handedIn deeds ++ loop.channel.queue = sentIn deeds := by
  induction run with
  | rest => rfl
  | @move deeds new loop next move _ step conserved =>
      have moved := (moves_of_step? step).conserves
      rw [handedIn_append, sentIn_append, List.append_assoc, moved, ← List.append_assoc, conserved]

end IntakeLoop

/-! ## Results -/

/-- The handling of an event can end with this result, if it gets the right answers. -/
inductive Intake.Yields : Intake → IntakeResult → Prop where
  | done {work : Intake} {result : IntakeResult} (done : work.next = .done result) :
      Yields work result
  | ask {work : Intake} {request : Request} {resume : request.Answer → Intake}
      {result : IntakeResult} (asks : work.next = .ask request resume) (answer : request.Answer)
      (yields : Yields (resume answer) result) : Yields work result

namespace IntakeStatistics

def total (statistics : IntakeStatistics) : Nat :=
  statistics.created + statistics.duplicates + statistics.skipped + statistics.errors

theorem total_count (statistics : IntakeStatistics) (result : IntakeResult) :
    (statistics.count result).total = statistics.total + 1 := by
  rcases result with error | outcome
  · simp only [count, total]
    omega
  · cases outcome <;>
      simp only [count, total] <;>
      omega

theorem total_foldl (statistics : IntakeStatistics) (results : List IntakeResult) :
    (results.foldl count statistics).total = statistics.total + results.length := by
  induction results generalizing statistics with
  | nil => rfl
  | cons result results induction =>
      rw [List.foldl_cons, induction, total_count, List.length_cons]
      omega

end IntakeStatistics

/-- What is left to do for the event at hand, if there is one. -/
inductive Intake.Handles (listener : Listener) : Option Intake → List RawEvent → Prop where
  | nothing : Handles listener none []
  | event {work : Intake} {event : RawEvent}
      (yields : ∀ result, work.Yields result → (Intake.start listener event).Yields result) :
      Handles listener (some work) [event]

/-- These events have been handled one after the other, each to one result,
except for the one at hand. -/
structure Intake.Records (listener : Listener) (current : Option Intake)
    (statistics : IntakeStatistics) (events : List RawEvent) (results : List IntakeResult) :
    Prop where
  counted : statistics = results.foldl IntakeStatistics.count {}
  handled : ∃ handled atHand, events = handled ++ atHand ∧
    List.Forall₂ (fun event result => (Intake.start listener event).Yields result)
      handled results ∧
    Intake.Handles listener current atHand

namespace Intake.Records

variable {listener : Listener} {work : Intake} {statistics : IntakeStatistics}
  {events : List RawEvent} {results : List IntakeResult}

theorem begin (records : Records listener none statistics events results) (event : RawEvent) :
    Records listener (some (start listener event)) statistics (events ++ [event]) results := by
  rcases records.handled with ⟨handled, atHand, split, yield, handles⟩
  cases handles
  rw [List.append_nil] at split
  subst split
  exact ⟨records.counted, events, [event], rfl, yield, .event fun _ yields => yields⟩

theorem goOn {request : Request} {resume : request.Answer → Intake}
    (records : Records listener (some work) statistics events results)
    (asks : work.next = .ask request resume) (answer : request.Answer) :
    Records listener (some (resume answer)) statistics events results := by
  rcases records.handled with ⟨handled, atHand, split, yield, handles⟩
  cases handles with
  | event yields =>
      exact ⟨records.counted, handled, _, split, yield,
        .event fun result goesOn => yields result (.ask asks answer goesOn)⟩

theorem finish {result : IntakeResult}
    (records : Records listener (some work) statistics events results)
    (done : work.next = .done result) :
    Records listener none (statistics.count result) events (results ++ [result]) := by
  rcases records.handled with ⟨handled, atHand, split, yield, handles⟩
  cases handles with
  | @event _ event yields =>
      refine ⟨?_, events, [], (List.append_nil events).symm, ?_, .nothing⟩
      · rw [List.foldl_append, ← records.counted]
        rfl
      · rw [split]
        exact List.rel_append yield (.cons (yields result (.done done)) .nil)

theorem length_of_free (records : Records listener none statistics events results) :
    results.length = events.length := by
  rcases records.handled with ⟨handled, atHand, rfl, yield, handles⟩
  cases handles
  rw [List.append_nil, yield.length_eq]

theorem total_of_free (records : Records listener none statistics events results) :
    statistics.total = events.length := by
  rw [records.counted, IntakeStatistics.total_foldl, records.length_of_free]
  exact Nat.zero_add _

end Intake.Records

namespace IntakeLoop

variable {listener : Listener} {senders : Nat} {deeds new : List IntakeDeed}
  {loop next : IntakeLoop}

theorem Moves.listener_eq (moves : loop.Moves new next) : next.listener = loop.listener := by
  cases moves <;> rfl

theorem Moves.records (moves : loop.Moves new next)
    (records : Intake.Records loop.listener loop.current loop.statistics (handedIn deeds)
      (resultsIn deeds)) :
    Intake.Records next.listener next.current next.statistics (handedIn (deeds ++ new))
      (resultsIn (deeds ++ new)) := by
  rw [handedIn_append, resultsIn_append]
  cases moves with
  | cloned | began | admitted | sent | gaveUp | left | signalled | closed | returned =>
      exact (List.append_nil (handedIn deeds)).symm ▸ (List.append_nil (resultsIn deeds)).symm ▸
        records
  | handed _ free _ =>
      rw [free] at records
      exact (List.append_nil (resultsIn deeds)).symm ▸ records.begin _
  | answered atHand asks answer =>
      rw [atHand] at records
      exact (List.append_nil (handedIn deeds)).symm ▸ (List.append_nil (resultsIn deeds)).symm ▸
        records.goOn asks answer
  | recorded atHand done =>
      rw [atHand] at records
      exact (List.append_nil (handedIn deeds)).symm ▸ records.finish done

theorem Run.records (run : Run (start listener senders) deeds loop) :
    loop.listener = listener ∧
      Intake.Records loop.listener loop.current loop.statistics (handedIn deeds)
        (resultsIn deeds) := by
  induction run with
  | rest => exact ⟨rfl, rfl, [], [], rfl, .nil, .nothing⟩
  | move _ _ step induction =>
      have moves := moves_of_step? step
      exact ⟨moves.listener_eq.trans induction.1, moves.records induction.2⟩

end IntakeLoop

end RedemptionRelay
