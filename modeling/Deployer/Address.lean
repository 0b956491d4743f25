import Deployer.Error
import Deployer.Text.Blank
import Deployer.Url.Reference

/-!
# Instance addresses

The address of a service instance is what an operator types: a URL under `http` or `https`, or just
`host[:port]` with perhaps a path, which is taken under `http`. An address names a service root, so it
has neither a query nor a fragment.

Without a scheme the part up to the first `/`, `?` or `#` must end in a host, or in a colon and digits;
this catches mangled schemes such as `https:/host`.
-/

namespace Deployer.Address

open Url

/-- Whether two lists of characters agree up to the case of ASCII letters. -/
def sameLetters (a b : List Char) : Bool := a.map Char.toLower == b.map Char.toLower

/-- The schemes that an address may name. -/
def isSchemeName (name : List Char) : Bool :=
  sameLetters name "http".toList || sameLetters name "https".toList

/-- What stands between a scheme and the rest of an address. -/
def schemeMark : List Char := [':', '/', '/']

/-- The part of an address without a scheme that must name the host. -/
def authorityPart (address : List Char) : List Char :=
  address.takeWhile fun c => c != '/' && c != '?' && c != '#'

/-- The text after the last colon of an authority, if it cannot be a port. An IPv6 address without a
port ends in a bracket. -/
def badPort? (authority : List Char) : Option (List Char) :=
  if authority.getLast? = some ']' then none
  else
    match Text.cutLast (· == ':') authority with
    | some (_, port) => if port.isEmpty || !port.all Char.isDigit then some port else none
    | none => none

/-- An address with its scheme. `shown` is the address as the operator typed it. -/
def withScheme (shown : String) (trimmed : List Char) : Except AddressFault (List Char) :=
  match Text.cutWord schemeMark trimmed with
  | some (name, _) =>
    if isSchemeName name then .ok trimmed else .error (.scheme shown (String.ofList name))
  | none =>
    match badPort? (authorityPart trimmed) with
    | some port => .error (.port shown (String.ofList port))
    | none => .ok ("http://".toList ++ trimmed)

/-- The base URL of an instance address. -/
def normalize (address : String) : Except AddressFault Url := do
  let trimmed := Text.trimChars address.toList
  if trimmed.isEmpty then throw .empty
  let full ← withScheme address trimmed
  match Url.parse full with
  | .error fault => throw (.url address fault)
  | .ok url =>
    if url.host.text.isEmpty then throw (.noHost address)
    if url.query.isSome || url.fragment.isSome then throw (.queryOrFragment address)
    return url

/-- The URL of an operation: the base URL with the pieces of the operation's path after its own. -/
def operationUrl (base : Url) (operation : String) : Url :=
  { base with path := base.path.extend operation.toList }

/-- The URL of an operation under a base of any scheme. -/
def operationUrl? (base : Reference) (operation : String) : Except AddressFault Reference :=
  match base with
  | .hosted url => .ok (.hosted (operationUrl url operation))
  | .rooted url => .ok (.rooted (url.extend operation.toList))
  | .unrooted text => .error (.noPath text)

end Deployer.Address
