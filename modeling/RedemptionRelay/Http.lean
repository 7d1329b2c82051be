import RedemptionRelay.Http.Url
import RedemptionRelay.Text.Duration
import RedemptionRelay.Text.Utf8

/-! # Requests over the web

A `Transport` carries a request and brings back the response, or says why it
could not. How long that takes, and how a response is faulted that cannot be
read, is its own affair as well.
-/

namespace RedemptionRelay

inductive HttpMethod where
  | get
  | post
deriving DecidableEq, Repr

def HttpMethod.text : HttpMethod → String
  | .get => "GET"
  | .post => "POST"

structure HttpRequest where
  method : HttpMethod
  url : Url
  body : Option String
deriving DecidableEq, Repr

structure HttpResponse where
  status : Nat
  body : Bytes
deriving DecidableEq, Repr

namespace HttpResponse

def isSuccess (response : HttpResponse) : Bool :=
  200 ≤ response.status && response.status < 300

def bodyText (response : HttpResponse) : String :=
  Utf8.decode response.body

end HttpResponse

inductive ConnectionFailure where
  | invalidAddress
  | unassignableAddress
  | unreachableNetwork
  | unknownName
  | unresolvedName
deriving DecidableEq, Repr

namespace ConnectionFailure

def connecting (reason : String) : String :=
  s!"tcp connect error: {reason}"

def resolving (reason : String) : String :=
  s!"dns error: failed to lookup address information: {reason}"

def message : ConnectionFailure → String
  | .invalidAddress => connecting "Invalid argument (os error 22)"
  | .unassignableAddress => connecting "Cannot assign requested address (os error 99)"
  | .unreachableNetwork => connecting "Network is unreachable (os error 101)"
  | .unknownName => resolving "Name or service not known"
  | .unresolvedName => resolving "Temporary failure in name resolution"

end ConnectionFailure

inductive TransportError where
  | invalidUrl (error : UrlError)
  | schemeNotAllowed (url : String)
  | notSendable (url : String)
  | connection (url : String) (failure : ConnectionFailure)
deriving DecidableEq, Repr

def TransportError.message : TransportError → String
  | .invalidUrl error => s!"builder error: {error.message}"
  | .schemeNotAllowed url => s!"builder error for url ({url}): URL scheme is not allowed"
  | .notSendable url => s!"builder error for url ({url}): Parsed Url is not a valid Uri"
  | .connection url failure =>
      s!"error sending request for url ({url}): error trying to connect: {failure.message}"

def HttpRequest.make (method : HttpMethod) (address : String) (body : Option String) :
    Except TransportError HttpRequest :=
  match Url.parse address with
  | .error error => .error (.invalidUrl error)
  | .ok url =>
      let url := url.withoutCredentials
      if !url.isRequestable then .error (.schemeNotAllowed url.text)
      else if !url.isSendable then .error (.notSendable url.text)
      else .ok ⟨method, url, body⟩

structure Transport (ω : Type) where
  send : ω → HttpRequest → Except TransportError HttpResponse × ω
  delay : ω → HttpRequest → Duration
  /-- What is said about a body that is not what the request asks for. -/
  complaint : HttpRequest → String → String

/-- The caller waits no longer than this; what cannot be sent is not waited for. -/
def Transport.isHeard {ω : Type} (transport : Transport ω) (network : ω) (limit : Duration) :
    Except TransportError HttpRequest → Bool
  | .ok request => (transport.delay network request).nanoseconds ≤ limit.nanoseconds
  | .error _ => true

def trimSlashes (address : String) : String :=
  String.ofList (address.toList.reverse.dropWhile (· == '/')).reverse

end RedemptionRelay
