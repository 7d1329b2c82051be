import RedemptionRelay.Http
import RedemptionRelay.Json.Shape
import RedemptionRelay.Text.Base64
import RedemptionRelay.Text.Blank

/-! # Attestations

The guardians sign a redemption request some time after it was made. Their
signed message is looked up by the hash of the requesting transaction. A lookup
that fails may be repeated; one that is refused will never succeed.
-/

namespace RedemptionRelay

inductive AttestationOutcome where
  | available (payload : Bytes)
  | notYetAvailable
  | permanentFailure (reason : String)
deriving DecidableEq, Repr

inductive AttestationError where
  | transport (error : TransportError)
  | unexpectedStatus (status : Nat) (body : String)
  | parse (reason : String)
deriving DecidableEq, Repr

def AttestationError.message : AttestationError → String
  | .transport error => s!"HTTP request failed: {error.message}"
  | .unexpectedStatus status body => s!"Unexpected response ({status}): {body}"
  | .parse reason => s!"Parse error: {reason}"

abbrev AttestationResult := Except AttestationError AttestationOutcome

namespace Attestation

open Json (Tree)

/-! ## Responses

A response lists operations; each may hold a signed message, whose bytes are
written in Base64. -/

def rawOfJson? (tree : Tree) : Option (Option String) := do
  let fields ← tree.fields? ["raw"] 1
  fields.optional? "raw" Tree.text?

def operationOfJson? (tree : Tree) : Option (Option String) := do
  let fields ← tree.fields? ["vaa"] 1
  let raw ← fields.optional? "vaa" rawOfJson?
  return raw.join

def messagesOfJson? (tree : Tree) : Option (List (Option String)) := do
  let fields ← tree.fields? ["operations"] 0
  fields.defaulted? "operations" [] (Tree.list? operationOfJson?)

def firstMessage? (messages : List (Option String)) : Option String :=
  (messages.filterMap id).find? (!·.isEmpty)

def decodeMessage (message : String) : AttestationResult :=
  match Base64.decode message with
  | .ok payload => .ok (.available payload)
  | .error error => .error (.parse s!"invalid VAA encoding: {error.message}")

def interpretBody (complaint : String → String) (body : String) : AttestationResult :=
  match (Tree.ofText? body).bind messagesOfJson? with
  | none => .error (.parse (complaint body))
  | some messages =>
      match firstMessage? messages with
      | none => .ok .notYetAvailable
      | some message => decodeMessage message

def interpret (complaint : String → String) (status : Nat) (body : String) : AttestationResult :=
  if status = 404 then .ok .notYetAvailable
  else if status = 400 then .ok (.permanentFailure s!"lookup rejected: {Blank.trim body}")
  else if status < 200 ∨ 300 ≤ status then .error (.unexpectedStatus status body)
  else interpretBody complaint body

/-! ## The lookup service -/

def mainnetUrl : String := "https://api.wormholescan.io"

def testnetUrl : String := "https://api.testnet.wormholescan.io"

def lookupAddress (baseUrl sourceTxHash : String) : String :=
  s!"{trimSlashes baseUrl}/api/v1/operations?txHash={sourceTxHash}"

def lookupRequest (baseUrl sourceTxHash : String) : Except TransportError HttpRequest :=
  HttpRequest.make .get (lookupAddress baseUrl sourceTxHash) none

def fetch {ω : Type} (transport : Transport ω) (world : ω) (baseUrl sourceTxHash : String) :
    AttestationResult × ω :=
  match lookupRequest baseUrl sourceTxHash with
  | .error error => (.error (.transport error), world)
  | .ok request =>
      match transport.send world request with
      | (.error error, world) => (.error (.transport error), world)
      | (.ok response, world) =>
          (interpret (transport.complaint request) response.status response.bodyText, world)

end Attestation

end RedemptionRelay
