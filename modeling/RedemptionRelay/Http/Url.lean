import RedemptionRelay.Http.Url.Host
import RedemptionRelay.Http.Url.Path

/-! # Addresses

The address of a request is taken from a configured text. What it holds is
brought to one form: tabs and line ends vanish, names are brought to ASCII, the
dots of paths are resolved, and characters that may not be sent are replaced by
their codes. What follows a `#` is kept apart and never sent.

In the schemes of the web a backslash counts as a slash and a host is required.
In any other scheme what follows may also be a mere path or a text without
structure.
-/

namespace RedemptionRelay

inductive SchemeKind where
  | web
  | file
  | other
deriving DecidableEq, Repr

namespace SchemeKind

def ofName (scheme : String) : SchemeKind :=
  if ["http", "https", "ws", "wss", "ftp"].contains scheme then .web
  else if scheme = "file" then .file
  else .other

def backslashes : SchemeKind → Bool
  | .other => false
  | _ => true

def queryReserved : SchemeKind → List Char
  | .other => Escape.queryReserved
  | _ => '\'' :: Escape.queryReserved

end SchemeKind

def defaultPort? (scheme : String) : Option Nat :=
  if scheme = "http" ∨ scheme = "ws" then some 80
  else if scheme = "https" ∨ scheme = "wss" then some 443
  else if scheme = "ftp" then some 21
  else none

/-- A user's name and password, in percent codes. -/
structure Credentials where
  name : String
  password : String
deriving DecidableEq, Repr

structure Authority where
  credentials : Option Credentials
  host : Host
  portNumber : Option Nat
deriving DecidableEq, Repr

structure Url where
  scheme : String
  authority : Option Authority
  path : String
  query : Option String
  fragment : Option String
deriving DecidableEq, Repr

def splitAt (mark : Char) (chars : List Char) : List Char × Option (List Char) :=
  match chars.dropWhile (· ≠ mark) with
  | _ :: rest => (chars.takeWhile (· ≠ mark), some rest)
  | [] => (chars, none)

/-! ## Credentials -/

namespace Credentials

/-- Nothing is known of a user without name and password. -/
def ofChars? (chars : List Char) : Option Credentials :=
  let encode := Escape.encode Escape.credentialReserved
  let (name, password) := splitAt ':' chars
  let password := password.getD []
  if name.isEmpty && password.isEmpty then none
  else
    some {
      name := String.ofList (encode name)
      password := String.ofList (encode password) }

def text (credentials : Credentials) : String :=
  credentials.name ++
    (if credentials.password.isEmpty then "" else ":" ++ credentials.password) ++ "@"

/-- Whether a request can carry the credentials in a header of its own. -/
def isReadable (credentials : Credentials) : Bool :=
  match Escape.decodeText? credentials.name.toList with
  | none => false
  | some name => !name.isEmpty || (Escape.decodeText? credentials.password.toList).isSome

end Credentials

/-! ## Authorities -/

namespace Authority

def splitCredentials (chars : List Char) : Option (List Char) × List Char :=
  match splitAt '@' chars.reverse with
  | (_, none) => (none, chars)
  | (host, some credentials) => (some credentials.reverse, host.reverse)

def splitPort (inside : Bool) : List Char → List Char × Option (List Char)
  | [] => ([], none)
  | c :: rest =>
      if c = ':' && !inside then ([], some rest)
      else
        let inside := c = '[' || (inside && c ≠ ']')
        let (host, digits) := splitPort inside rest
        (c :: host, digits)

def readPort (usual : Option Nat) (chars : List Char) :
    Except UrlError (Option Nat × List Char) :=
  let rest := chars.dropWhile Char.isDigit
  if rest.isEmpty || rest.head? = some '\\' then
    match Digits.read? 10 (chars.takeWhile Char.isDigit) with
    | none => .ok (none, rest)
    | some number =>
        if 65535 < number then .error .invalidPort
        else .ok (if usual = some number then none else some number, rest)
  else .error .invalidPort

def parseHost (kind : SchemeKind) (chars : List Char) : Except UrlError Host :=
  match kind with
  | .other => Host.parseName chars
  | _ => Host.parseDomain chars

/-- Reads an authority and answers with the path behind it; `isLast` tells that
neither query nor fragment follows. -/
def parse (kind : SchemeKind) (usualPort : Option Nat) (isLast : Bool) (place : List Char) :
    Except UrlError (Authority × List Char) := do
  let isSlash := UrlPath.isSlash kind.backslashes
  let path := place.dropWhile (!isSlash ·)
  let (user, address) := splitCredentials (place.takeWhile (!isSlash ·))
  if user = some [] && address.isEmpty && !(path.isEmpty && isLast) then throw .emptyHost
  let credentials := user.bind Credentials.ofChars?
  let (name, digits) := splitPort false address
  let host ← parseHost kind name
  if host = .empty && (digits.isSome || credentials.isSome) then throw .emptyHost
  let (portNumber, rest) ← readPort usualPort (digits.getD [])
  return ({ credentials, host, portNumber }, rest ++ path)

def text (authority : Authority) : String :=
  (match authority.credentials with | some credentials => credentials.text | none => "") ++
    authority.host.text ++
    (match authority.portNumber with | some number => ":" ++ number.repr | none => "")

end Authority

namespace Url

/-! ## Parsing -/

def clean (chars : List Char) : List Char :=
  let isEdge (c : Char) : Bool := c.toNat ≤ 0x20
  let trimmed := ((chars.dropWhile isEdge).reverse.dropWhile isEdge).reverse
  trimmed.filter fun c => c ≠ '\t' && c ≠ '\n' && c ≠ '\r'

def isSchemeChar (c : Char) : Bool :=
  c.isAlphanum || c = '+' || c = '-' || c = '.'

def splitScheme? (chars : List Char) : Option (String × List Char) :=
  match chars with
  | first :: _ =>
      if first.isAlpha then
        match chars.dropWhile isSchemeChar with
        | ':' :: rest =>
            some (String.ofList ((chars.takeWhile isSchemeChar).map Char.toLower), rest)
        | _ => none
      else none
  | [] => none

/-- Where an address leads: an authority, if there is one, and a path. -/
abbrev Place := Option Authority × List Char

def webPlace (scheme : String) (isLast : Bool) (chars : List Char) : Except UrlError Place := do
  let isSlash := UrlPath.isSlash true
  let (authority, path) ←
    Authority.parse .web (defaultPort? scheme) isLast (chars.dropWhile isSlash)
  return (some authority, UrlPath.normal true (path.drop 1))

def otherPlace (isLast : Bool) (chars : List Char) : Except UrlError Place :=
  match chars with
  | '/' :: '/' :: rest => do
      let (authority, path) ← Authority.parse .other none isLast rest
      match path with
      | [] => return (some authority, [])
      | '/' :: path | path => return (some authority, UrlPath.normal false path)
  | '/' :: path => .ok (none, UrlPath.normal false path)
  | chars => .ok (none, Escape.encode [] chars)

def localHost : Authority :=
  { credentials := none, host := .empty, portNumber := none }

/-- The host of a file; the machine itself has no name. -/
def fileHost (chars : List Char) : Except UrlError Host :=
  if chars.isEmpty then .ok .empty
  else do
    let host ← Host.parseDomain chars
    return if host = .name "localhost" then .empty else host

def filePlace (chars : List Char) : Except UrlError Place :=
  let isSlash := UrlPath.isSlash true
  let slashes := (chars.takeWhile isSlash).length
  if slashes < 2 then .ok (some localHost, UrlPath.ofFile (chars.drop slashes))
  else
    let rest := chars.drop 2
    let name := rest.takeWhile (!isSlash ·)
    if UrlPath.isDrive name then .ok (some localHost, UrlPath.ofFile rest)
    else do
      let host ← fileHost name
      let path := (rest.dropWhile (!isSlash ·)).drop 1
      let host := if UrlPath.opensWithDrive path then .empty else host
      return (some { localHost with host := host }, UrlPath.ofFile path)

def parse (text : String) : Except UrlError Url :=
  match splitScheme? (clean text.toList) with
  | none => .error .noScheme
  | some (scheme, rest) => do
      let kind := SchemeKind.ofName scheme
      let (rest, fragment) := splitAt '#' rest
      let (rest, query) := splitAt '?' rest
      let isLast := query.isNone && fragment.isNone
      let (authority, path) ←
        match kind with
        | .web => webPlace scheme isLast rest
        | .file => filePlace rest
        | .other => otherPlace isLast rest
      return {
        scheme := scheme
        authority := authority
        path := String.ofList path
        query := query.map fun chars => String.ofList (Escape.encode kind.queryReserved chars)
        fragment := fragment.map fun chars =>
          String.ofList (Escape.encode Escape.fragmentReserved chars) }

/-! ## Writing -/

def target (url : Url) : String :=
  url.path ++ (match url.query with | some query => "?" ++ query | none => "")

/-- What stands before the path. Two slashes that open a path without authority
are kept apart from the colon. -/
def lead (url : Url) : String :=
  match url.authority with
  | some authority => "//" ++ authority.text
  | none => if "//".toList.isPrefixOf url.path.toList then "/." else ""

def text (url : Url) : String :=
  url.scheme ++ ":" ++ url.lead ++ url.target ++
    (match url.fragment with | some fragment => "#" ++ fragment | none => "")

def host (url : Url) : Host :=
  match url.authority with
  | some authority => authority.host
  | none => .empty

def isRequestable (url : Url) : Bool :=
  (url.scheme == "http" || url.scheme == "https") && url.host != .empty

/-- Characters that a host name can have but no request can carry. -/
def unsendable : List Char :=
  ['"', Char.ofNat 0x60, '\x7b', '\x7d']

def isSendable (url : Url) : Bool :=
  url.text.utf8ByteSize < 65535 && !url.host.text.toList.any unsendable.contains

def withoutCredentials (url : Url) : Url :=
  match url.authority with
  | some authority =>
      if authority.credentials.any Credentials.isReadable then
        { url with authority := some { authority with credentials := none } }
      else url
  | none => url

end Url

end RedemptionRelay
