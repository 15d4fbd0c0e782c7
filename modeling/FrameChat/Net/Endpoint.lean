import FrameChat.Net.Address

/-!
# Places to listen at

A service listens at a port of a host.  A host is given by one of its addresses
or by its name; an address made of groups may stand between brackets.  Whether
there is such a host, and whether it is the machine itself, only the machine
can tell.
-/

namespace FrameChat.Net

/-- What stands for a host. -/
inductive Host where
  | address (address : Address)
  | name (name : String)
  deriving DecidableEq, Repr

/-- A port of a host. -/
structure Endpoint where
  host : Host
  port : Nat
  deriving DecidableEq, Repr

/-- Why a service cannot listen at a place. -/
inductive EndpointFault where
  | noPort
  | badPort
  /-- the text in front of the port can stand for no host -/
  | noHost
  /-- nothing is known of a host of this name -/
  | unknownHost
  /-- the address is not one of the machine -/
  | foreignAddress
  deriving DecidableEq, Repr

/-- How the fault is worded. -/
def EndpointFault.message : EndpointFault → String
  | .noPort => "invalid socket address"
  | .badPort => "invalid port value"
  | .noHost => "failed to lookup address information: Name or service not known"
  | .unknownHost => "failed to lookup address information: Temporary failure in name resolution"
  | .foreignAddress => "Cannot assign requested address (os error 99)"

namespace Host

/-- Characters that a part of a host's name may have. -/
def isNameChar (char : Char) : Bool :=
  char.isAlphanum || char = '-' || char = '_'

/-- Characters of a part of a host's name at most. -/
def partLimit : Nat := 63

/-- Whether a text can be the name of a host: parts with dots between them, no hyphen first. -/
def isName (text : String) : Bool :=
  let text := if text.endsWith "." then String.ofList text.toList.dropLast else text
  !text.startsWith "-" &&
    (text.splitOn ".").all fun part =>
      !part.isEmpty && part.length ≤ partLimit && part.toList.all isNameChar

/-- The host that a text stands for. -/
def ofText? (text : String) : Option Host :=
  match Address.octets? text with
  | some (a, b, c, d) => some (.address (.v4 a b c d))
  | none =>
      match Address.v6? (withoutBrackets text) with
      | some found => some (.address found)
      | none => if isName text then some (.name text) else none

end Host

namespace Endpoint

/-- Ports lie below this. -/
def portBound : Nat := UInt16.size

/-- Read host and port, with a colon between them. -/
def parse (text : String) : Except EndpointFault Endpoint :=
  match splitLastColon text with
  | none => .error .noPort
  | some (host, port) =>
      match Text.Decimal.readCount 10 portBound port with
      | .error _ => .error .badPort
      | .ok port =>
          match Host.ofText? host with
          | none => .error .noHost
          | some host => .ok ⟨host, port⟩

/-- Listen on a machine that has the addresses of every machine and knows no host but itself. -/
def listenAlone (endpoint : Endpoint) : Except EndpointFault Unit :=
  match endpoint.host with
  | .address address => if address.isEverywhere then .ok () else .error .foreignAddress
  | .name name => if name = "localhost" then .ok () else .error .unknownHost

end Endpoint

end FrameChat.Net
