import Deployer.Url.FilePath
import Deployer.Url.Parse

/-!
# URLs that need no host

Under most schemes a URL need not have a host: after the colon comes a path with a slash in front, or
two slashes and an authority that may be empty, and then perhaps a path. Such a URL is `Rooted`. What
stands before its path is kept as it is written, since nothing but the path is ever changed.

The host of an authority is not a domain: letters keep their case, control characters and those beyond
ASCII are encoded, and some characters are not allowed; but an IPv6 address may stand in brackets. Only
a slash separates the segments of a path.

URLs of files are different. Their authority is a host as under `http`, and `localhost` is the same as
none; there is no host before a drive, and any number of slashes may stand before a path. They are read
from a text that still holds the characters that are dropped, since those may end a drive.
-/

namespace Deployer.Url

/-- How the segments of a path are separated and kept. -/
inductive Rooting where
  | plain
  | file
deriving DecidableEq, Repr

/-- A URL whose path is empty or has a slash in front, with the text before that path. -/
structure Rooted where
  rooting : Rooting
  lead : String
  path : Path
  query : Option String
  fragment : Option String
deriving DecidableEq, Repr

namespace Rooted

/-- The text of a URL. -/
def text (u : Rooted) : String :=
  String.ofList (u.lead.toList ++ u.path.write ++ writeAfter '?' u.query ++
    writeAfter '#' u.fragment)

/-- A URL with an operation path after its own. -/
def extend (u : Rooted) (operation : List Char) : Rooted :=
  match u.rooting with
  | .plain => { u with path := u.path.extendPlain operation }
  | .file => { u with path := FilePath.extend u.path operation }

/-! ### Authorities -/

/-- The characters that a host must not hold. -/
def isHostBreak (c : Char) : Bool :=
  ['\x00', '\t', '\n', '\r', ' ', '#', '/', ':', '<', '>', '?', '@', '[', '\\', ']', '^', '|'].contains c

/-- A host as it is written. -/
def parseHost (cs : List Char) : Except Fault (List Char) :=
  if cs.head? = some '[' then (Host.parse cs).map Host.write
  else if cs.any isHostBreak then .error .badHostCharacter
  else .ok (percentEncode .control cs)

/-- An authority as it is written, and what of the text after its port belongs to the path. `followed`
tells whether anything comes after the authority. -/
def parseAuthority (cs : List Char) (followed : Bool) : Except Fault (List Char × List Char) := do
  let cut := Text.cutLast (· == '@') cs
  if cut = some ([], []) && followed then throw .emptyHost
  let (before, after) := cut.getD ([], cs)
  let (username, password) := Authority.parseUserinfo before
  let userinfo := writeUserinfo username password
  let (host, portText) := Authority.cutPort false after
  let host ← parseHost host
  if host.isEmpty && (portText.isSome || !userinfo.isEmpty) then throw .emptyHost
  let (digits, rest) := (portText.getD []).span (· != '\\')
  let port ← Authority.parsePort none digits
  return (userinfo ++ host ++ writePort port, rest)

/-- The slash and dot that keep a path with an empty segment in front from being an authority. -/
def guardOf : Path → List Char
  | "" :: _ :: _ => ['/', '.']
  | _ => []

/-- The URL that the text after a scheme's colon spells, if it has a slash in front. -/
def parsePlain? (scheme cs : List Char) : Except Fault (Option Rooted) := do
  let (front, query, fragment) := cutTail cs
  let make (lead : List Char) (path : Path) : Rooted :=
    ⟨.plain, String.ofList (scheme ++ ':' :: lead), path, encodedPart .plainQuery query,
      encodedPart .fragment fragment⟩
  match front with
  | '/' :: '/' :: rest =>
    let after := rest.dropWhile (· != '/')
    let followed := !after.isEmpty || query.isSome || fragment.isSome
    let (authority, more) ← parseAuthority (rest.takeWhile (· != '/')) followed
    return some (make ('/' :: '/' :: authority) (.parsePlain (more ++ after)))
  | '/' :: _ =>
    let path := Path.parsePlain front
    return some (make (guardOf path) path)
  | _ => return none

/-! ### Files -/

/-- The host of a file, which may be none, as it is written. -/
def parseFileHost (cs : List Char) : Except Fault (List Char) := do
  if cs.isEmpty then return []
  let host ← Host.parse cs
  return if host = .domain "localhost" then [] else host.write

/-- What follows a slash, if that comes first; dropped characters may stand before it. -/
def afterSlash? (cs : List Char) : Option (List Char) :=
  match cs.dropWhile Path.isDropped with
  | c :: rest => if Path.isSlash c then some rest else none
  | [] => none

/-- The host and the path of a file, from a text that may hold dropped characters. Without a host the
slash after it belongs to the first segment, which is then empty. -/
def parseFileFront (front : List Char) : Except Fault (List Char × FilePath) := do
  let some rest := afterSlash? front | return ([], .parse front)
  let some rest := afterSlash? rest | return ([], .parse rest)
  let name := FilePath.kept (rest.takeWhile (!Path.isSlash ·))
  if FilePath.isDriveLetter name then return ([], .parse rest)
  let after := rest.dropWhile (!Path.isSlash ·)
  let host ← parseFileHost name
  if host.isEmpty then return ([], .parse after)
  return (host, .parse (after.drop 1))

/-- The URL of a file that the text after the scheme's colon spells. The host of a path with a drive is
ignored. -/
def parseFile (cs : List Char) : Except Fault Rooted := do
  let (front, query, fragment) := cutTail cs
  let (host, file) ← parseFileFront front
  let host := if file.drive then [] else host
  return ⟨.file, String.ofList ("file://".toList ++ host), file.segments,
    encodedPart .query (query.map FilePath.kept), encodedPart .fragment (fragment.map FilePath.kept)⟩

end Rooted

end Deployer.Url
