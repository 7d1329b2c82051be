import RedemptionRelay.Amount
import RedemptionRelay.Chain
import RedemptionRelay.Json.Value
import RedemptionRelay.Redemption
import RedemptionRelay.Text.Hex

/-! # Adapting chain events

Every kind of chain reports a redemption request in its own shape:

    kind       transaction hash    fields        names
    evm, sei   transactionHash     args          camelCase
    solana     signature           data          snake_case
    sui        id.txDigest         parsedJson    snake_case
    starknet   transaction_hash    event         snake_case

Bytes are given in hexadecimal or as an array of numbers; whole numbers as
literals or as texts in the form of an amount. The first fault in the order of
`adapt` is the one reported.
-/

namespace RedemptionRelay

inductive AdaptationError where
  | missingField (name : String)
  | invalidField (field reason : String)
deriving DecidableEq, Repr

def AdaptationError.message : AdaptationError → String
  | .missingField name => s!"missing field: {name}"
  | .invalidField field reason => s!"invalid field {field}: {reason}"

/-! ## Layouts -/

structure FieldNames where
  walletPubKeyHash : String
  mainUtxo : String
  txHash : String
  txOutputIndex : String
  txOutputValue : String
  redeemerOutputScript : String
  amount : String

def FieldNames.camelCase : FieldNames :=
  { walletPubKeyHash := "walletPubKeyHash"
    mainUtxo := "mainUtxo"
    txHash := "txHash"
    txOutputIndex := "txOutputIndex"
    txOutputValue := "txOutputValue"
    redeemerOutputScript := "redeemerOutputScript"
    amount := "amount" }

def FieldNames.snakeCase : FieldNames :=
  { walletPubKeyHash := "wallet_pub_key_hash"
    mainUtxo := "main_utxo"
    txHash := "tx_hash"
    txOutputIndex := "tx_output_index"
    txOutputValue := "tx_output_value"
    redeemerOutputScript := "redeemer_output_script"
    amount := "amount" }

structure EventLayout where
  txHashPath : List String
  fieldsKey : String
  names : FieldNames

namespace ChainKind

def layout : ChainKind → EventLayout
  | .evm | .sei => ⟨["transactionHash"], "args", .camelCase⟩
  | .solana => ⟨["signature"], "data", .snakeCase⟩
  | .sui => ⟨["id", "txDigest"], "parsedJson", .snakeCase⟩
  | .starknet => ⟨["transaction_hash"], "event", .snakeCase⟩

/-! ## Transaction hashes

Hexadecimal hashes are written in lowercase behind one mark. Those of StarkNet
are numbers and lose their leading zeros; the identifiers of Solana and Sui are
kept as they are. -/

def dropUpperMarks : List Char → List Char
  | '0' :: 'X' :: rest => dropUpperMarks rest
  | chars => chars

def hashDigits (raw : String) : List Char :=
  dropUpperMarks (Hex.dropMarks raw.toList)

def dropZeros (digits : List Char) : List Char :=
  match digits.dropWhile (· == '0') with
  | [] => ['0']
  | digits => digits

def normalizeHash (kind : ChainKind) (raw : String) : Except AdaptationError String :=
  match kind with
  | .solana | .sui => .ok raw
  | .evm | .sei | .starknet =>
      let digits := hashDigits raw
      if digits.isEmpty || !digits.all Digits.isHexadecimal then
        .error (.invalidField "tx_hash" "not a hex hash")
      else
        let lowered := digits.map Char.toLower
        let kept := if kind = .starknet then dropZeros lowered else lowered
        .ok (String.ofList ('0' :: 'x' :: kept))

end ChainKind

/-! ## Fields -/

namespace Adaptation

open Json (Value)

def path? (value : Value) (names : List String) : Option Value :=
  names.foldlM (fun value name => value.member? name) value

def field (value : Value) (name : String) : Except AdaptationError Value :=
  match value.member? name with
  | some .null | none => .error (.missingField name)
  | some found => .ok found

def byte? : Value → Option UInt8
  | .number literal =>
      match Digits.read? 10 literal.toList with
      | some value => if value < 256 then some (UInt8.ofNat value) else none
      | none => none
  | _ => none

def rawBytes (name : String) : Value → Except AdaptationError Bytes
  | .text content =>
      match Hex.decodeMarked content with
      | .ok bytes => .ok bytes
      | .error error => .error (.invalidField name error.message)
  | .array items =>
      match items.mapM byte? with
      | some bytes => .ok bytes
      | none => .error (.invalidField name "array element is not a byte")
  | _ => .error (.invalidField name "expected hex string or byte array")

/-- Bytes of the expected length, or of any length but zero. -/
def bytes (name : String) (expected : Option Nat) (value : Value) :
    Except AdaptationError String := do
  let bytes ← rawBytes name value
  if bytes.isEmpty then .error (.invalidField name "empty")
  else
    match expected with
    | some length =>
        if bytes.length ≠ length then
          .error (.invalidField name s!"expected {length} bytes, got {bytes.length}")
        else .ok (Hex.encodeMarked bytes)
    | none => .ok (Hex.encodeMarked bytes)

def whole (name : String) : Value → Except AdaptationError Nat
  | .number literal =>
      match Digits.read? 10 literal.toList with
      | some value =>
          if value < Amount.tokenBound then .ok value
          else .error (.invalidField name "not a non-negative integer")
      | none => .error (.invalidField name "not a non-negative integer")
  | .text content =>
      match Amount.parse? content with
      | some value => .ok value
      | none => .error (.invalidField name "not an integer string")
  | _ => .error (.invalidField name "expected number or string")

def wholeBelow (bound : Nat) (name : String) (value : Value) : Except AdaptationError Nat := do
  let number ← whole name value
  if number < bound then .ok number else .error (.invalidField name "out of range")

def transactionHash (kind : ChainKind) (raw : Value) : Except AdaptationError String :=
  let path := kind.layout.txHashPath
  match (path? raw path).bind Value.asText? with
  | some hash =>
      if hash.isEmpty then .error (.missingField (".".intercalate path))
      else kind.normalizeHash hash
  | none => .error (.missingField (".".intercalate path))

def eventFields (kind : ChainKind) (raw : Value) : Except AdaptationError Value :=
  let key := kind.layout.fieldsKey
  match raw.member? key with
  | some fields => if fields.isObject then .ok fields else .error (.missingField key)
  | none => .error (.missingField key)

def mainUtxo (names : FieldNames) (fields : Value) : Except AdaptationError MainUtxo := do
  let utxo ← field fields names.mainUtxo
  let txHash ← bytes "main_utxo.tx_hash" (some 32) (← field utxo names.txHash)
  let outputIndex ←
    wholeBelow Width.bound32 "main_utxo.tx_output_index" (← field utxo names.txOutputIndex)
  let outputValue ←
    wholeBelow Width.bound64 "main_utxo.tx_output_value" (← field utxo names.txOutputValue)
  return { txHash, outputIndex, outputValue }

def positive (name : String) (value : Nat) : Except AdaptationError Nat :=
  if value = 0 then .error (.invalidField name "must be positive") else .ok value

end Adaptation

open Adaptation in
def ChainKind.adapt (kind : ChainKind) (raw : Json.Value) : Except AdaptationError Event := do
  let names := kind.layout.names
  let sourceTxHash ← transactionHash kind raw
  let fields ← eventFields kind raw
  let walletPubKeyHash ←
    bytes "wallet_pub_key_hash" (some 20) (← field fields names.walletPubKeyHash)
  let mainUtxo ← mainUtxo names fields
  let redeemerOutputScript ←
    bytes "redeemer_output_script" none (← field fields names.redeemerOutputScript)
  let amount ← whole "amount" (← field fields names.amount)
  let amount ← positive "amount" amount
  return { walletPubKeyHash, mainUtxo, redeemerOutputScript, amount, sourceTxHash }

end RedemptionRelay
