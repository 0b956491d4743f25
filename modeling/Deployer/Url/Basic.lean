import Deployer.Url.Host
import Deployer.Url.Path

/-!
# URLs

A `Url` is an absolute URL with a host, under a scheme whose URLs all have one. Its parts are kept in
the form in which they are written: percent-encoded, the port left out when it is the scheme's own.
-/

namespace Deployer.Url

/-- The schemes whose URLs have a host. -/
inductive Scheme where
  | http
  | https
  | ftp
  | ws
  | wss
deriving DecidableEq, Repr

namespace Scheme

/-- The name of a scheme. -/
def name : Scheme → String
  | http => "http"
  | https => "https"
  | ftp => "ftp"
  | ws => "ws"
  | wss => "wss"

/-- The port that a URL need not name. -/
def defaultPort : Scheme → UInt16
  | http => 80
  | https => 443
  | ftp => 21
  | ws => 80
  | wss => 443

/-- The scheme of a name in small letters. -/
def ofName? (name : List Char) : Option Scheme :=
  [http, https, ftp, ws, wss].find? fun s => s.name.toList == name

end Scheme

end Deployer.Url

namespace Deployer

/-- An absolute URL with a host. A password is never empty. -/
structure Url where
  scheme : Url.Scheme
  username : String
  password : Option String
  host : Url.Host
  port : Option UInt16
  path : Url.Path
  query : Option String
  fragment : Option String
deriving DecidableEq, Repr

namespace Url

/-- The characters of the user name and the password, with the sign after them. -/
def writeUserinfo (username : String) (password : Option String) : List Char :=
  match password with
  | some p => username.toList ++ ':' :: p.toList ++ ['@']
  | none => if username.isEmpty then [] else username.toList ++ ['@']

/-- The characters of the port, with the colon before it. -/
def writePort : Option UInt16 → List Char
  | some p => ':' :: Nat.toDigits 10 p.toNat
  | none => []

/-- The characters of a part that a sign introduces. -/
def writeAfter (sign : Char) : Option String → List Char
  | some s => sign :: s.toList
  | none => []

/-- The characters of a URL. -/
def write (u : Url) : List Char :=
  u.scheme.name.toList ++ [':', '/', '/'] ++ writeUserinfo u.username u.password ++
    u.host.write ++ writePort u.port ++ u.path.write ++
    writeAfter '?' u.query ++ writeAfter '#' u.fragment

/-- The text of a URL. -/
def text (u : Url) : String := String.ofList u.write

/-- A URL without its user name and password. -/
def withoutCredentials (u : Url) : Url := { u with username := "", password := none }

end Url

end Deployer
