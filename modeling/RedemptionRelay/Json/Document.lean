import RedemptionRelay.Json.Fault
import RedemptionRelay.Json.Tree
import RedemptionRelay.Json.Value

/-! # Dynamic documents

A document without a fixed shape is read as a `Value`: all its strings must be
Unicode text, containers may be nested up to a limit, of repeated members the
last one counts, and members are kept in the order of their names. An object
that opens with a reserved key stands for a number.
-/

namespace RedemptionRelay.Json

def nestingLimit : Nat := 127

/-- An object that opens with this key has no other member, and its value is a
text that holds the literal of a number. -/
def numberKey : String := "$serde_json::private::Number"

def opensWithNumberKey (members : List (Option String × Tree)) : Bool :=
  (members.head?.bind (·.1)) == some numberKey

def markedNumber? : List (Option String × Tree) → Option Value
  | [(_, .text content)] => (content.bind numberLiteral?).map .number
  | _ => none

mutual

def Tree.value? (depth : Nat) : Tree → Option Value
  | .null => some .null
  | .bool value => some (.bool value)
  | .number literal => some (.number literal)
  | .text content => content.map .text
  | .array items =>
      match depth with
      | 0 => none
      | depth + 1 => (itemValues? depth items).map .array
  | .object members =>
      match depth with
      | 0 => none
      | depth + 1 =>
          if opensWithNumberKey members then markedNumber? members
          else (memberValues? depth members).map (.object ∘ Value.sortMembers)

def itemValues? (depth : Nat) : List Tree → Option (List Value)
  | [] => some []
  | item :: rest => do
      let value ← item.value? depth
      let values ← itemValues? depth rest
      return value :: values

def memberValues? (depth : Nat) : List (Option String × Tree) → Option (List (String × Value))
  | [] => some []
  | (name, tree) :: rest => do
      let name ← name
      let value ← tree.value? depth
      let members ← memberValues? depth rest
      return (name, value) :: members

end

/-! ## Reading -/

/-- A fault and its place; lines count from one, columns are bytes. -/
structure DocumentError where
  fault : Fault
  line : Nat
  column : Nat
deriving DecidableEq, Repr

namespace DocumentError

def message (error : DocumentError) : String :=
  s!"{error.fault.message} at line {error.line} column {error.column}"

def placeBehind (walked : List Char) : Nat × Nat :=
  walked.foldl (fun place c => if c = '\n' then (place.1 + 1, 0) else (place.1, place.2 + 1)) (1, 0)

/-- The first fault of a text. One that is spelled well is refused for what it
has in place of a number. -/
def ofText (text : String) : DocumentError :=
  let chars := Walk.bytewise text
  let reached : Stop :=
    match Walk.document nestingLimit chars with
    | .error reached => reached
    | .ok rest => { fault := .invalidNumber, rest := rest }
  let (line, column) := placeBehind (chars.take (chars.length - reached.rest.length))
  { fault := reached.fault, line := line, column := column }

end DocumentError

def read (text : String) : Except DocumentError Value :=
  match (Tree.ofText? text).bind (Tree.value? nestingLimit) with
  | some value => .ok value
  | none => .error (.ofText text)

end RedemptionRelay.Json
