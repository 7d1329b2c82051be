import RedemptionRelay.Intake

/-! # The intake channel

Events wait in a channel, first in first out, until the intake takes them. A
send first gets a place, of which there are only so many, and then puts its
event there. The intake ends when the channel is empty and nothing can come any
more: because every sender is gone, or because the intake has noticed the
shutdown and closed the channel, and no place is taken without its event.
-/

namespace RedemptionRelay

/-! ## The channel -/

/-- What the holder of a sending half is at. -/
inductive Sender where
  | idle
  /-- A send has begun and waits for a place. -/
  | waiting (event : RawEvent)
  /-- The send has its place, but has not put the event there yet. -/
  | admitted (event : RawEvent)
  | gone

namespace Sender

def isAdmitted : Sender → Bool
  | .admitted _ => true
  | _ => false

def isGone : Sender → Bool
  | .gone => true
  | _ => false

end Sender

structure IntakeChannel where
  queue : List RawEvent := []
  senders : List Sender
  isClosed : Bool := false

/-- What can be seen of the channel and of the intake. -/
inductive IntakeDeed where
  | began (sender : Nat) (event : RawEvent)
  | sent (sender : Nat) (event : RawEvent)
  | closed
  | handed (event : RawEvent)
  | answered
  | recorded (result : IntakeResult)
  | returned

inductive SenderMove where
  | clone
  | begin (event : RawEvent)
  | takePlace
  | deliver
  /-- The send is turned down, or nobody waits for it any longer. -/
  | giveUp
  | leave

namespace IntakeChannel

def capacity : Nat := 1024

def hasRoom (channel : IntakeChannel) : Bool :=
  !channel.isClosed &&
    channel.queue.length + channel.senders.countP Sender.isAdmitted < capacity

def close (channel : IntakeChannel) : IntakeChannel :=
  { channel with isClosed := true }

def set (channel : IntakeChannel) (index : Nat) (sender : Sender) : IntakeChannel :=
  { channel with senders := channel.senders.set index sender }

def isQuiet (channel : IntakeChannel) : Bool :=
  channel.senders.all Sender.isGone ||
    channel.isClosed && !channel.senders.any Sender.isAdmitted

def isOver (channel : IntakeChannel) : Bool :=
  channel.queue.isEmpty && channel.isQuiet

def move? (channel : IntakeChannel) (index : Nat) (move : SenderMove) :
    Option (IntakeChannel × List IntakeDeed) :=
  match channel.senders[index]?, move with
  | some .idle, .clone | some (.waiting _), .clone | some (.admitted _), .clone =>
      some ({ channel with senders := channel.senders ++ [.idle] }, [])
  | some .idle, .begin event => some (channel.set index (.waiting event), [.began index event])
  | some (.waiting event), .takePlace =>
      if channel.hasRoom then some (channel.set index (.admitted event), []) else none
  | some (.admitted event), .deliver =>
      some ({ channel.set index .idle with queue := channel.queue ++ [event] },
        [.sent index event])
  | some (.waiting _), .giveUp | some (.admitted _), .giveUp => some (channel.set index .idle, [])
  | some .idle, .leave => some (channel.set index .gone, [])
  | _, _ => none

end IntakeChannel

/-! ## The intake loop

Each turn takes an event or notices the shutdown, which is signalled or whose
signaller is gone; where both are ready either may be taken. An event is handled
to the end before the next turn, whatever the store answers. -/

structure IntakeLoop where
  listener : Listener
  channel : IntakeChannel
  isSignalled : Bool := false
  /-- The intake has noticed the shutdown. -/
  isDraining : Bool := false
  /-- How far the event at hand has been handled. -/
  current : Option Intake := none
  statistics : IntakeStatistics := {}
  isFinished : Bool := false

inductive IntakeMove where
  | sender (index : Nat) (move : SenderMove)
  | signal
  | takeEvent
  | takeSignal
  | answer (reply : (request : Request) → request.Answer)
  | record
  | finish

namespace IntakeLoop

def step? (loop : IntakeLoop) : IntakeMove → Option (IntakeLoop × List IntakeDeed)
  | .sender index move =>
      (loop.channel.move? index move).map fun (channel, deeds) =>
        ({ loop with channel := channel }, deeds)
  | .signal => some ({ loop with isSignalled := true }, [])
  | .takeEvent =>
      if loop.isFinished || loop.current.isSome then none
      else
        match loop.channel.queue with
        | event :: queue =>
            some ({ loop with
                channel := { loop.channel with queue := queue }
                current := some (Intake.start loop.listener event) },
              [.handed event])
        | [] => none
  | .takeSignal =>
      if loop.isFinished || loop.current.isSome || loop.isDraining || !loop.isSignalled then none
      else some ({ loop with channel := loop.channel.close, isDraining := true }, [.closed])
  | .answer reply =>
      match loop.current with
      | some work =>
          match work.next with
          | .ask request resume =>
              some ({ loop with current := some (resume (reply request)) }, [.answered])
          | .done _ => none
      | none => none
  | .record =>
      match loop.current with
      | some work =>
          match work.next with
          | .ask _ _ => none
          | .done result =>
              some ({ loop with current := none, statistics := loop.statistics.count result },
                [.recorded result])
      | none => none
  | .finish =>
      if !loop.isFinished && loop.current.isNone && loop.channel.isOver then
        some ({ loop with channel := loop.channel.close, isFinished := true }, [.returned])
      else none

/-- Takes and records everything that waits, in order. -/
def drain {World : Type} (record : World → RawEvent → IntakeResult × World) (world : World)
    (statistics : IntakeStatistics) : List RawEvent → IntakeStatistics × World
  | [] => (statistics, world)
  | event :: waiting =>
      let (result, world) := record world event
      drain record world (statistics.count result) waiting

end IntakeLoop

end RedemptionRelay
