import ClusterPower.Http.IpAddress
import ClusterPower.Text.Integer

/-!
Addresses to listen at: an IP address with a port. `SocketAddress.resolve` also
takes numeric hosts in their looser forms; names are not looked up.
-/

namespace ClusterPower.Http

open Text (Reader)

structure SocketAddress where
  ip : IpAddress
  port : Nat
deriving DecidableEq, Repr, Inhabited

namespace SocketAddress

open IpAddress

def portBound : Nat := Word.bound 16

def portSuffix : Reader Nat := do
  Reader.character ':'
  number 10 portBound

def groupsWithZone : Reader IpAddress := do
  let groups ← eightGroups
  let zone ← Reader.optional (do Reader.character '%'; number 10 (Word.bound 32))
  return .v6 groups (zone.getD 0)

def strict : Reader SocketAddress :=
  (do
    let bits ← quad
    return ⟨.v4 bits, ← portSuffix⟩) <|> (do
    Reader.character '['
    let ip ← groupsWithZone
    Reader.character ']'
    return ⟨ip, ← portSuffix⟩)

def text (address : SocketAddress) : String :=
  match address.ip with
  | .v4 bits => quadText bits ++ ":" ++ toString address.port
  | .v6 groups zone =>
    let zoneText := if zone = 0 then "" else "%" ++ toString zone
    "[" ++ v6Text groups ++ zoneText ++ "]:" ++ toString address.port

/-! ## Resolving -/

inductive Fault where
  | noPort
  | badPort
  | unknownHost
deriving DecidableEq, Repr

namespace Fault

def reason : Fault → String
  | .noPort => "invalid socket address"
  | .badPort => "invalid port value"
  | .unknownHost => "failed to lookup address information: Name or service not known"

def message (text : String) (fault : Fault) : String :=
  "configuration error: Failed to parse listen address " ++ text ++ ": " ++ fault.reason

end Fault

def numericHost? (host : String) : Option IpAddress :=
  let characters := host.toList
  ((looseQuad? basedNumber? characters).map .v4).or (groupsWithZone.readAll? characters)

def splitPort? (text : String) : Option (String × String) :=
  let reversed := text.toList.reverse
  match reversed.dropWhile (· != ':') with
  | [] => none
  | _ :: host =>
    some (String.ofList host.reverse, String.ofList (reversed.takeWhile (· != ':')).reverse)

def resolve (text : String) : Except Fault SocketAddress :=
  match strict.readAll? text.toList with
  | some address => .ok address
  | none =>
    match splitPort? text with
    | none => .error .noPort
    | some (host, portText) =>
      match Text.naturalBelow? portBound portText with
      | none => .error .badPort
      | some port =>
        match numericHost? host with
        | some ip => .ok ⟨ip, port⟩
        | none => .error .unknownHost

end SocketAddress

end ClusterPower.Http
