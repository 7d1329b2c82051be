/-! # JSON values

A `Value` keeps a number as the literal it is written with, so that no number
is ever rounded. An object is a list of members; `Value.sorted` brings it to
the form in which dynamic data is kept, with one member per key, the last one
given, in the order of the keys.
-/

namespace RedemptionRelay.Json

inductive Value where
  | null
  | bool (value : Bool)
  | number (literal : String)
  | text (content : String)
  | array (items : List Value)
  | object (members : List (String × Value))
deriving Repr, Inhabited

namespace Value

def ofNat (value : Nat) : Value :=
  .number value.repr

def ofOption {α : Type} (ofSome : α → Value) : Option α → Value
  | none => .null
  | some value => ofSome value

def ofText? : Option String → Value :=
  ofOption .text

/-! ## Access -/

def member? (name : String) : Value → Option Value
  | .object members => (members.reverse.find? (·.1 == name)).map (·.2)
  | _ => none

def asText? : Value → Option String
  | .text content => some content
  | _ => none

def isObject : Value → Bool
  | .object _ => true
  | _ => false

def isNull : Value → Bool
  | .null => true
  | _ => false

/-! ## Member order -/

/-- Puts a member into an ordered list, in place of one with the same key. -/
def insertMember (name : String) (value : Value) : List (String × Value) → List (String × Value)
  | [] => [(name, value)]
  | (other, kept) :: rest =>
      if name < other then (name, value) :: (other, kept) :: rest
      else if name = other then (name, value) :: rest
      else (other, kept) :: insertMember name value rest

def sortMembers (members : List (String × Value)) : List (String × Value) :=
  members.foldl (fun sorted member => insertMember member.1 member.2 sorted) []

mutual

def sorted : Value → Value
  | .array items => .array (sortedItems items)
  | .object members => .object (sortMembers (sortedMembers members))
  | value => value

def sortedItems : List Value → List Value
  | [] => []
  | item :: rest => item.sorted :: sortedItems rest

def sortedMembers : List (String × Value) → List (String × Value)
  | [] => []
  | (name, value) :: rest => (name, value.sorted) :: sortedMembers rest

end

end Value

end RedemptionRelay.Json
