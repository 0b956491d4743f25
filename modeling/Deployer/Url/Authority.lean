import Deployer.Url.Basic

/-!
# Authorities

The authority of a URL is the text between the slashes and the path: perhaps a user name and a password
before the last `@`, then the host, then perhaps a port after the first colon that is not in brackets.
An empty host is a fault before anything is said about the port.
-/

namespace Deployer.Url

/-- The parts of an authority. -/
structure Authority where
  username : String
  password : Option String
  host : Host
  port : Option UInt16

namespace Authority

/-- The user name and the password before the `@`. An empty password is none. -/
def parseUserinfo (cs : List Char) : String × Option String :=
  let encoded (part : List Char) := String.ofList (percentEncode .userinfo part)
  match Text.cutFirst (· == ':') cs with
  | (name, some (c :: password)) => (encoded name, some (encoded (c :: password)))
  | (name, _) => (encoded name, none)

/-- The host and the text of the port; a colon in brackets belongs to the host. -/
def cutPort (inside : Bool) : List Char → List Char × Option (List Char)
  | [] => ([], none)
  | c :: cs =>
    if c == ':' && !inside then ([], some cs)
    else
      let (host, port) := cutPort (c == '[' || inside && c != ']') cs
      (c :: host, port)

/-- The port that a text names, if it is not the scheme's own; an empty text names none. -/
def parsePort (own : Option UInt16) (cs : List Char) : Except Fault (Option UInt16) :=
  if cs.isEmpty then .ok none
  else if !cs.all Char.isDigit then .error .badPort
  else
    match Ipv4.digits? 10 cs with
    | some n =>
      if 65535 < n then .error .badPort
      else if own = some n.toUInt16 then .ok none
      else .ok (some n.toUInt16)
    | none => .error .badPort

/-- The parts of an authority. -/
def parse (scheme : Scheme) (cs : List Char) : Except Fault Authority := do
  let (before, after) := (Text.cutLast (· == '@') cs).getD ([], cs)
  let (username, password) := parseUserinfo before
  let (host, portText) := cutPort false after
  if host.isEmpty then throw .emptyHost
  let host ← Host.parse host
  let port ← parsePort (some scheme.defaultPort) (portText.getD [])
  return ⟨username, password, host, port⟩

end Authority

end Deployer.Url
