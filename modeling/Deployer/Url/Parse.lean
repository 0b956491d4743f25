import Deployer.Url.Authority

/-!
# Parsing URLs

Control characters and spaces around a URL are removed, and so are tabs and line ends within it. Under
a scheme whose URLs have a host any number of slashes or backslashes may stand after the colon.
-/

namespace Deployer.Url

/-- A URL without the control characters and spaces around it. -/
def trimmed (cs : List Char) : List Char :=
  let outer (c : Char) : Bool := c.toNat ≤ 0x20
  ((cs.dropWhile outer).reverse.dropWhile outer).reverse

/-- The characters of a URL without what is removed before it is parsed. -/
def stripped (cs : List Char) : List Char := (trimmed cs).filter (!Path.isDropped ·)

/-- Whether a character may stand in a scheme after its first letter. -/
def isSchemeChar (c : Char) : Bool := c.isAlphanum || c == '+' || c == '-' || c == '.'

/-- The scheme in small letters, and what follows its colon. -/
def cutScheme (cs : List Char) : Option (List Char × List Char) :=
  match Text.cutFirst (· == ':') cs with
  | (c :: name, some rest) =>
    if c.isAlpha && name.all isSchemeChar then some ((c :: name).map Char.toLower, rest) else none
  | _ => none

/-- The text before the query and the fragment, the query and the fragment. -/
def cutTail (cs : List Char) : List Char × Option (List Char) × Option (List Char) :=
  let (rest, fragment) := Text.cutFirst (· == '#') cs
  let (front, query) := Text.cutFirst (· == '?') rest
  (front, query, fragment)

/-- A part in percent-encoded form. -/
def encodedPart (set : EncodeSet) (part : Option (List Char)) : Option String :=
  part.map fun cs => String.ofList (percentEncode set cs)

/-- The URL that the text after a scheme's colon spells. -/
def parseAfter (scheme : Scheme) (cs : List Char) : Except Fault Url := do
  let (front, query, fragment) := cutTail (cs.dropWhile Path.isSlash)
  let authority ← Authority.parse scheme (front.takeWhile (!Path.isSlash ·))
  return {
    scheme
    username := authority.username
    password := authority.password
    host := authority.host
    port := authority.port
    path := Path.parse (front.dropWhile (!Path.isSlash ·))
    query := encodedPart .query query
    fragment := encodedPart .fragment fragment }

/-- The URL with a host that a text spells. -/
def parse (cs : List Char) : Except Fault Url :=
  match cutScheme (stripped cs) with
  | none => .error .noScheme
  | some (name, rest) =>
    match Scheme.ofName? name with
    | none => .error .noScheme
    | some scheme => parseAfter scheme rest

end Deployer.Url
