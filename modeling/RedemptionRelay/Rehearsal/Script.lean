import RedemptionRelay.Activity

/-! # Scripts

In a rehearsal the external services follow scripts: for each transaction a
list of replies used in turn, of which the last one is repeated. A script under
the name `*` serves the transactions that have none of their own.
-/

namespace RedemptionRelay

structure ScriptedReply (Reply : Type) where
  delayMilliseconds : Nat
  reply : Reply

abbrev Script (Reply : Type) := List (ScriptedReply Reply)

structure Scripts (Reply : Type) where
  byName : List (String × Script Reply)
  /-- Where there is no script at all. -/
  fallback : Reply

namespace Scripts

variable {Reply : Type}

def nameFor (scripts : Scripts Reply) (transaction : String) : String :=
  if (scripts.byName.lookup transaction).isSome then transaction else "*"

def scriptFor (scripts : Scripts Reply) (transaction : String) : Script Reply :=
  (scripts.byName.lookup (scripts.nameFor transaction)).getD []

def upcoming (scripts : Scripts Reply) (transaction : String) : ScriptedReply Reply :=
  (scripts.scriptFor transaction).head?.getD ⟨0, scripts.fallback⟩

def advanceScript : Script Reply → Script Reply
  | _ :: next :: rest => next :: rest
  | script => script

def advance (scripts : Scripts Reply) (transaction : String) : Scripts Reply :=
  let name := scripts.nameFor transaction
  { scripts with
    byName := scripts.byName.map fun (other, script) =>
      if other == name then (other, advanceScript script) else (other, script) }

end Scripts

/-- What a caller with a time limit sees of a reply: nothing if it comes too
late, and then at the limit. Time passes in whole milliseconds, so the limit is
rounded up; a reply that comes at the limit is in time. -/
def ScriptedReply.within {Reply : Type} (scripted : ScriptedReply Reply) (limit : Duration) :
    Nat × Option Reply :=
  if limit.ceilMilliseconds < scripted.delayMilliseconds then (limit.ceilMilliseconds, none)
  else (scripted.delayMilliseconds, some scripted.reply)

end RedemptionRelay
