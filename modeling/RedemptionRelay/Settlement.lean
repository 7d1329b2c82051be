import RedemptionRelay.Http
import RedemptionRelay.Redemption.Json
import RedemptionRelay.Text.Blank

/-! # Settlements

A signing service sends the finalizing transaction. It is handed the signed
message and the event and answers with a transaction hash. A transaction that
reverted is final; every other failure may be tried again.
-/

namespace RedemptionRelay

inductive SettlementError where
  | transport (error : TransportError)
  | reverted (reason : String)
  | rejected (reason : String)
  | invalidResponse (reason : String)
deriving DecidableEq, Repr

namespace SettlementError

def message : SettlementError → String
  | .transport error => s!"HTTP request failed: {error.message}"
  | .reverted reason => s!"Transaction reverted: {reason}"
  | .rejected reason => s!"Submission rejected: {reason}"
  | .invalidResponse reason => s!"Invalid response: {reason}"

def isPermanent : SettlementError → Bool
  | .reverted _ => true
  | _ => false

end SettlementError

abbrev SettlementResult := Except SettlementError String

namespace Settlement

open Json (Tree Value)

/-! ## Requests -/

/-- The amount is a text, since it may be wider than 64 bits. -/
def requestJson (payload : Bytes) (event : Event) : Value :=
  .object [
    ("encoded_vm", .text (Hex.encodeMarked payload)),
    ("wallet_pub_key_hash", .text event.walletPubKeyHash),
    ("main_utxo", event.mainUtxo.json),
    ("redeemer_output_script", .text event.redeemerOutputScript),
    ("amount", .text event.amount.repr),
    ("source_tx_hash", .text event.sourceTxHash)]

/-! ## Responses -/

structure Response where
  txHash : Option String
  error : Option String
  reverted : Bool
deriving DecidableEq, Repr

def Response.ofJson? (tree : Tree) : Option Response := do
  let fields ← tree.fields? ["tx_hash", "error", "reverted"] 2
  let txHash ← fields.optional? "tx_hash" Tree.text?
  let error ← fields.optional? "error" Tree.text?
  let reverted ← fields.defaulted? "reverted" false Tree.bool?
  return { txHash, error, reverted }

def Response.result (response : Response) (success : Bool) (body : String) : SettlementResult :=
  if response.reverted then
    .error (.reverted (response.error.getD "execution reverted"))
  else
    match response.error with
    | some error => .error (.rejected error)
    | none =>
        if !success then .error (.rejected (Blank.trim body))
        else
          match response.txHash with
          | some txHash =>
              if txHash.isEmpty then .error (.invalidResponse "missing tx_hash") else .ok txHash
          | none => .error (.invalidResponse "missing tx_hash")

def interpret (complaint : String → String) (success : Bool) (body : String) : SettlementResult :=
  match (Tree.ofText? body).bind Response.ofJson? with
  | some response => response.result success body
  | none =>
      if success then .error (.invalidResponse (complaint body))
      else .error (.rejected (Blank.trim body))

/-! ## The signing service -/

def submitAddress (baseUrl : String) : String :=
  s!"{trimSlashes baseUrl}/submit"

def submitRequest (baseUrl : String) (payload : Bytes) (event : Event) :
    Except TransportError HttpRequest :=
  HttpRequest.make .post (submitAddress baseUrl) (some (requestJson payload event).write)

def submit {ω : Type} (transport : Transport ω) (world : ω) (baseUrl : String) (payload : Bytes)
    (event : Event) : SettlementResult × ω :=
  match submitRequest baseUrl payload event with
  | .error error => (.error (.transport error), world)
  | .ok request =>
      match transport.send world request with
      | (.error error, world) => (.error (.transport error), world)
      | (.ok response, world) =>
          (interpret (transport.complaint request) response.isSuccess response.bodyText, world)

end Settlement

end RedemptionRelay
