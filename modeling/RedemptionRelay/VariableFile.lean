import RedemptionRelay.Text.Alphanumeric
import RedemptionRelay.Text.Blank

/-! # Variable files

Variables may also be given in a file, one `name=value` per line. A value may
be quoted, may hold escapes, and may refer to variables by `$`. Reading stops
at the first faulty line; a variable that is already set keeps its value.
-/

namespace RedemptionRelay.VariableFile

abbrev Environment := List (String × String)

/-- Where the reading of a value stands. -/
inductive Mode where
  | plain
  | weakQuote
  | strongQuote
  /-- Behind a dollar sign: the name so far, and whether within weak quotes. -/
  | reference (name : List Char) (quoted : Bool)
  | bracedReference (name : List Char) (quoted : Bool)
  | escape (quoted : Bool)
  /-- Behind the value, where only a comment may follow. -/
  | afterValue
  | comment
deriving DecidableEq, Repr

structure ValueState where
  mode : Mode := .plain
  output : List Char := []

def isNameChar (c : Char) : Bool :=
  c.isAlphanum || c == '_' || c == '.'

def resolve (environment : Environment) (name : List Char) : List Char :=
  ((environment.lookup (String.ofList name)).getD "").toList

def unquoted (quoted : Bool) : Mode :=
  if quoted then .weakQuote else .plain

def escaped? : Char → Option Char
  | 'n' => some '\n'
  | c => if c = '\\' || c = '\'' || c = '"' || c = '$' || c = ' ' then some c else none

/-- One more character of a value; `none` where the value is faulty. -/
def step (environment : Environment) (state : ValueState) (c : Char) : Option ValueState :=
  let keep (mode : Mode) : Option ValueState := some { mode := mode, output := state.output ++ [c] }
  let turn (mode : Mode) : Option ValueState := some { state with mode := mode }
  match state.mode with
  | .comment => some state
  | .afterValue =>
      if c = ' ' || c = '\t' then some state else if c = '#' then turn .comment else none
  | .escape quoted =>
      (escaped? c).map fun c => { mode := unquoted quoted, output := state.output ++ [c] }
  | .strongQuote => if c = '\'' then turn .plain else keep .strongQuote
  | .reference name quoted =>
      if Alphanumeric.isAlphanumeric c then turn (.reference (name ++ [c]) quoted)
      else if c = '\x7b' && name.isEmpty then turn (.bracedReference [] quoted)
      else
        let output := state.output ++ resolve environment name
        if c = '$' then some { mode := .reference [] quoted, output := output }
        else some { mode := unquoted quoted, output := output ++ [c] }
  | .bracedReference name quoted =>
      if c = '\x7d' then
        some { mode := unquoted quoted, output := state.output ++ resolve environment name }
      else turn (.bracedReference (name ++ [c]) quoted)
  | .weakQuote =>
      if c = '$' then turn (.reference [] true)
      else if c = '"' then turn .plain
      else if c = '\\' then turn (.escape true)
      else keep .weakQuote
  | .plain =>
      if c = '$' then turn (.reference [] false)
      else if c = '\'' then turn .strongQuote
      else if c = '"' then turn .weakQuote
      else if c = '\\' then turn (.escape false)
      else if c = ' ' || c = '\t' then turn .afterValue
      else keep .plain

def finish? (environment : Environment) (state : ValueState) : Option (List Char) :=
  match state.mode with
  | .strongQuote | .weakQuote | .bracedReference _ _ | .reference _ true | .escape true => none
  | .reference name false => some (state.output ++ resolve environment name)
  | _ => some state.output

def value? (environment : Environment) (chars : List Char) : Option String := do
  let state ← chars.foldlM (step environment) {}
  let output ← finish? environment state
  return String.ofList output

def name? (chars : List Char) : Option (String × List Char) :=
  match chars with
  | first :: _ =>
      if first.isAlpha || first = '_' then
        some (String.ofList (chars.takeWhile isNameChar), chars.dropWhile isNameChar)
      else none
  | [] => none

def skipBlanks (chars : List Char) : List Char :=
  chars.dropWhile Blank.isBlank

def behindEqual? (chars : List Char) : Option (List Char) :=
  match skipBlanks chars with
  | '=' :: rest => some (skipBlanks rest)
  | _ => none

/-- The name and the text of the value; the word `export` may stand in front. -/
def assignment? (chars : List Char) : Option (String × List Char) := do
  let (name, rest) ← name? chars
  match behindEqual? rest with
  | some value => return (name, value)
  | none =>
      if name = "export" then
        let (name, rest) ← name? (skipBlanks rest)
        let value ← behindEqual? rest
        return (name, value)
      else none

inductive Line where
  | empty
  | assignment (name value : String)
  | faulty
deriving DecidableEq, Repr

def isVoid (chars : List Char) : Bool :=
  chars.isEmpty || chars.head? == some '#'

def readLine (environment : Environment) (line : List Char) : Line :=
  let chars := Blank.trimChars line
  if isVoid chars then .empty
  else
    match assignment? chars with
    | none => .faulty
    | some (name, value) =>
        if isVoid value then .assignment name ""
        else
          match value? environment value with
          | some value => .assignment name value
          | none => .faulty

def splitLines : List Char → List (List Char)
  | [] => [[]]
  | '\n' :: rest => [] :: splitLines rest
  | c :: rest =>
      match splitLines rest with
      | [] => [[c]]
      | line :: lines => (c :: line) :: lines

def addLines (environment : Environment) : List (List Char) → Environment
  | [] => environment
  | line :: lines =>
      match readLine environment line with
      | .empty => addLines environment lines
      | .assignment name value =>
          if (environment.lookup name).isSome then addLines environment lines
          else addLines (environment ++ [(name, value)]) lines
      | .faulty => environment

def extend (environment : Environment) (text : String) : Environment :=
  addLines environment (splitLines text.toList)

end RedemptionRelay.VariableFile
