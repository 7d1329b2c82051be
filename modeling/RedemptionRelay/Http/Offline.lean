import RedemptionRelay.Http

/-! # Without a network

Where there is no network every request fails, and its host decides how. No
address is reached, and no name is resolved but that of the machine itself; a
name that cannot be that of a machine is not even asked for.
-/

namespace RedemptionRelay.Offline

def isNameChar (c : Char) : Bool :=
  c.isAlphanum || c == '-' || c == '_'

def isLabel (label : List Char) : Bool :=
  !label.isEmpty && label.length ≤ 63 && label.all isNameChar

/-- Labels between points, with an optional point behind them; together with
their lengths they fill at most 255 bytes. -/
def isMachineName (name : List Char) : Bool :=
  let name := if name.getLast? = some '.' then name.dropLast else name
  name.head? ≠ some '-' && name.length ≤ 253 && (Domain.splitLabels name).all isLabel

def isLoopback (name : String) : Bool :=
  name == "localhost" || name == "*"

def isLinkLocal (piece : Nat) : Bool :=
  0xfe80 ≤ piece && piece < 0xfec0

def isMulticast (piece : Nat) : Bool :=
  0xff00 ≤ piece

/-- Whether an address of eight pieces stands for one of 32 bits. -/
def isMapped (pieces : List Nat) : Bool :=
  pieces.take 6 == [0, 0, 0, 0, 0, 0xffff]

def failureOfPieces (pieces : List Nat) : ConnectionFailure :=
  let first := pieces.headD 0
  if isLinkLocal first then .invalidAddress
  else if isMulticast first || isMapped pieces then .unreachableNetwork
  else .unassignableAddress

def failure : Host → ConnectionFailure
  | .ipv4 _ => .unreachableNetwork
  | .ipv6 pieces => failureOfPieces pieces
  | .name name =>
      if isLoopback name then .unreachableNetwork
      else if isMachineName name.toList then .unresolvedName
      else .unknownName
  | .empty => .unknownName

end RedemptionRelay.Offline

namespace RedemptionRelay

def Transport.offline : Transport Unit where
  send _ request := (.error (.connection request.url.text (Offline.failure request.url.host)), ())
  delay _ _ := ⟨0⟩
  complaint _ _ := "unexpected response"

end RedemptionRelay
