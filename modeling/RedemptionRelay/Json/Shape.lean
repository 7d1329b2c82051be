import RedemptionRelay.Json.Tree

/-! # Reading documents of a fixed shape

A structure is written as an object with its fields as members, or as an array
of all its fields in order. Members with other names are ignored, whatever they
hold; a field given twice is refused. Whole numbers are plain literals below a
bound: no sign, no fraction, no exponent.
-/

namespace RedemptionRelay.Json.Tree

def text? : Tree → Option String
  | .text content => content
  | _ => none

def bool? : Tree → Option Bool
  | .bool value => some value
  | _ => none

def natural? (bound : Nat) : Tree → Option Nat
  | .number literal =>
      match Digits.read? 10 literal.toList with
      | some value => if value < bound then some value else none
      | none => none
  | _ => none

def optional? {α : Type} (read : Tree → Option α) : Tree → Option (Option α)
  | .null => some none
  | tree => (read tree).map some

def list? {α : Type} (read : Tree → Option α) : Tree → Option (List α)
  | .array items => items.mapM read
  | _ => none

/-- The word of a plain choice, given as a string or as `word: null` alone. -/
def word? : Tree → Option String
  | .text content => content
  | .object [(name, .null)] => name
  | _ => none

/-! ## Structures -/

/-- The fields found, by name. -/
abbrev Fields := List (String × Tree)

def namedMembers : List (Option String × Tree) → Option Fields
  | [] => some []
  | (name, tree) :: rest => do
      let name ← name
      let fields ← namedMembers rest
      return (name, tree) :: fields

/-- The fields of a structure with the given names; as an array it must have at
least the first `leading` of them. -/
def fields? (names : List String) (leading : Nat) : Tree → Option Fields
  | .object members => do
      let named ← namedMembers members
      let known := named.filter (fun field => names.contains field.1)
      if (known.map (·.1)).Nodup then some known else none
  | .array items =>
      if leading ≤ items.length ∧ items.length ≤ names.length then some (names.zip items) else none
  | _ => none

def Fields.required? {α : Type} (fields : Fields) (name : String) (read : Tree → Option α) :
    Option α :=
  (fields.lookup name).bind read

/-- A field that may be absent or null. -/
def Fields.optional? {α : Type} (fields : Fields) (name : String) (read : Tree → Option α) :
    Option (Option α) :=
  match fields.lookup name with
  | none => some none
  | some tree => tree.optional? read

/-- A field that may be absent, in favour of `fallback`, but not null. -/
def Fields.defaulted? {α : Type} (fields : Fields) (name : String) (fallback : α)
    (read : Tree → Option α) : Option α :=
  match fields.lookup name with
  | none => some fallback
  | some tree => read tree

end RedemptionRelay.Json.Tree
