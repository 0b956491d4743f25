import Deployer.Url.Domain
import Deployer.Url.Ipv6
import Deployer.Url.PercentCoding

/-!
# Hosts

A host is an IPv6 address in brackets, an IPv4 address, or a domain in ASCII. Domains are
percent-decoded before they are mapped; a domain whose last label is a number must be an address.
-/

namespace Deployer.Url

/-- Why a URL is refused. -/
inductive Fault where
  | emptyHost
  | badDomain
  | badHostCharacter
  | badPort
  | badIpv4
  | badIpv6
  | noScheme
deriving DecidableEq, Repr

/-- The fault in words. -/
def Fault.text : Fault → String
  | emptyHost => "empty host"
  | badDomain => "invalid international domain name"
  | badHostCharacter => "invalid domain character"
  | badPort => "invalid port number"
  | badIpv4 => "invalid IPv4 address"
  | badIpv6 => "invalid IPv6 address"
  | noScheme => "relative URL without a base"

inductive Host where
  | domain (name : String)
  | ipv4 (address : UInt32)
  | ipv6 (pieces : List UInt16)
deriving DecidableEq, Repr

namespace Host

/-- The characters of a host. -/
def write : Host → List Char
  | domain name => name.toList
  | ipv4 address => Ipv4.write address
  | ipv6 pieces => '[' :: Ipv6.write pieces ++ [']']

/-- The text of a host. -/
def text (h : Host) : String := String.ofList h.write

/-- The host that a domain in ASCII names. -/
def ofAscii (name : List Char) : Except Fault Host :=
  if name.isEmpty then .error .emptyHost
  else if Ipv4.endsInNumber name then
    match Ipv4.parse? name with
    | some address => .ok (.ipv4 address)
    | none => .error .badIpv4
  else .ok (.domain (String.ofList name))

/-- The host that a text names. -/
def parse (cs : List Char) : Except Fault Host :=
  match cs with
  | '[' :: inner =>
    match inner.getLast?, Ipv6.parse? inner.dropLast with
    | some ']', some pieces => .ok (.ipv6 pieces)
    | _, _ => .error .badIpv6
  | _ =>
    match percentDecodeText? (String.ofList cs) with
    | none => .error .badDomain
    | some decoded =>
      match Domain.toAscii? decoded.toList with
      | none => .error .badDomain
      | some name => ofAscii name

end Host

end Deployer.Url
