import RedemptionRelay.Text.Word
import RedemptionRelay.Text.Blank

/-! # Destination chains

A chain has a name, which is stored on every record, and a kind, which decides
the form of its events. Chains are configured as `name:kind`, separated by
commas; entries that are blank do not count.
-/

namespace RedemptionRelay

inductive ChainKind where
  | evm
  | sei
  | solana
  | sui
  | starknet
deriving DecidableEq, Repr, Inhabited

namespace ChainKind

def all : List ChainKind :=
  [.evm, .sei, .solana, .sui, .starknet]

def text : ChainKind → String
  | .evm => "evm"
  | .sei => "sei"
  | .solana => "solana"
  | .sui => "sui"
  | .starknet => "starknet"

def ofText? (text : String) : Option ChainKind :=
  all.find? (·.text == Word.lower text)

def unknownMessage (text : String) : String :=
  s!"unknown chain kind: {text}"

end ChainKind

structure Chain where
  name : String
  kind : ChainKind
deriving DecidableEq, Repr

/-! ## Reading -/

inductive ChainError where
  | expectedNameAndKind (entry : String)
  | emptyName (entry : String)
  | unknownKind (kind : String)
  | duplicate (name : String)
  | noChains
deriving DecidableEq, Repr

def ChainError.message : ChainError → String
  | .expectedNameAndKind entry => s!"expected name:kind, got {entry}"
  | .emptyName entry => s!"empty chain name in {entry}"
  | .unknownKind kind => ChainKind.unknownMessage kind
  | .duplicate name => s!"duplicate chain: {name}"
  | .noChains => "no chains configured"

namespace Chain

def ofEntry (entry : String) : Except ChainError Chain :=
  let chars := Blank.trimChars entry.toList
  match chars.dropWhile (· ≠ ':') with
  | _ :: kindChars =>
      let name := Blank.trimChars (chars.takeWhile (· ≠ ':'))
      let kind := String.ofList (Blank.trimChars kindChars)
      if name.isEmpty then .error (.emptyName entry)
      else
        match ChainKind.ofText? kind with
        | some kind => .ok ⟨String.ofList name, kind⟩
        | none => .error (.unknownKind kind)
  | [] => .error (.expectedNameAndKind entry)

def splitEntries : List Char → List (List Char)
  | [] => [[]]
  | c :: rest =>
      if c = ',' then [] :: splitEntries rest
      else
        match splitEntries rest with
        | [] => [[c]]
        | entry :: entries => (c :: entry) :: entries

/-- Adds the chains of the remaining entries to those already read. -/
def collect (chains : List Chain) : List String → Except ChainError (List Chain)
  | [] => .ok chains
  | entry :: rest => do
      let chain ← ofEntry entry
      if chains.any (·.name == chain.name) then .error (.duplicate chain.name)
      else collect (chains ++ [chain]) rest

def ofList (text : String) : Except ChainError (List Chain) := do
  let entries := (splitEntries text.toList).filter (!·.all Blank.isBlank)
  let chains ← collect [] (entries.map String.ofList)
  if chains.isEmpty then .error .noChains else return chains

end Chain

end RedemptionRelay
