import Deployer.Text.Pieces
import Deployer.Url.PercentCoding

/-!
# Paths of URLs

A path is a nonempty list of segments; its text has a slash before each, so `[""]` is the path `/`.
Segments enter a path one at a time through `Path.push`, which resolves dot segments, spelled with
dots or with `%2e`: a single one is dropped and a double one removes the last segment, and as the last
segment either leaves an empty one. A segment that begins like a drive (`C:` or `C|`, at the end or
before a backslash) is never removed.

`Path.parse` reads the path of a URL; backslashes count as slashes. `Path.extend` appends the pieces
of an operation path. There a piece `.` or `..` is skipped, and everything but the separators is data,
so that `%`, `\`, `?` and `#` are encoded.
-/

namespace Deployer.Url

/-- The segments of a path. -/
abbrev Path := List String

namespace Path

/-- The path `/`. -/
def root : Path := [""]

/-- The characters of a path. -/
def write (path : Path) : List Char := path.flatMap fun segment => '/' :: segment.toList

/-- The text of a path. -/
def text (path : Path) : String := String.ofList path.write

/-- The spellings of a dot. -/
def dots : List (List Char) := [['.'], ['%', '2', 'e'], ['%', '2', 'E']]

/-- Whether a segment is a single dot. -/
def isSingleDot (segment : List Char) : Bool := dots.contains segment

/-- Whether a segment is a double dot. -/
def isDoubleDot (segment : List Char) : Bool :=
  dots.any fun a => dots.any fun b => segment == a ++ b

/-- Whether a segment begins with a letter and a colon or bar, and then ends or has a backslash. -/
def beginsLikeDrive : List Char → Bool
  | letter :: c :: rest =>
    letter.isAlpha && (c == ':' || c == '|') && rest.head?.all (· == '\\')
  | _ => false

/-- A path without its last segment, unless that begins like a drive. -/
def up (path : Path) : Path :=
  match path.getLast? with
  | some segment => if beginsLikeDrive segment.toList then path else path.dropLast
  | none => path

/-- A path with one more segment, which may be a dot segment; `last` tells whether it ends the path. -/
def push (path : Path) (segment : List Char) (last : Bool) : Path :=
  if isDoubleDot segment then path.up ++ (if last then [""] else [])
  else if isSingleDot segment then path ++ (if last then [""] else [])
  else path ++ [String.ofList segment]

/-- A path with more segments, of which the last ends it. -/
def pushAll (path : Path) : List (List Char) → Path
  | [] => path
  | [segment] => path.push segment true
  | segment :: rest => pushAll (path.push segment false) rest

/-- What separates the segments of a path that is parsed. -/
def isSlash (c : Char) : Bool := c == '/' || c == '\\'

/-- The path of a URL, from the text between the authority and the query. -/
def parse (cs : List Char) : Path :=
  let cs := match cs with
    | c :: rest => if isSlash c then rest else cs
    | [] => cs
  pushAll [] ((Text.pieces isSlash cs).map (percentEncode .path))

/-- A path of more than one segment without an empty last segment. -/
def closed (path : Path) : Path :=
  match path with
  | _ :: _ :: _ => if path.getLast? = some "" then path.dropLast else path
  | _ => path

/-- Whether a character is a tab or ends a line; such characters are dropped from URLs. -/
def isDropped (c : Char) : Bool := c == '\t' || c == '\n' || c == '\r'

/-- A path with one more piece of an operation path, in which the characters of a set are encoded. An
empty path is filled, not lengthened. -/
def appendPiece (set : EncodeSet) (path : Path) (piece : List Char) : Path :=
  let start : Path := if path = root then [] else path
  start.push (percentEncode set (piece.filter (!isDropped ·))) true

/-- The pieces of an operation path that name a segment. -/
def namedPieces (operation : List Char) : List (List Char) :=
  (Text.pieces (· == '/') operation).filter fun piece =>
    !piece.isEmpty && piece != ['.'] && piece != ['.', '.']

/-- A base path with an operation path after it. -/
def extend (base : Path) (operation : List Char) : Path :=
  (namedPieces operation).foldl (appendPiece .segment) base.closed

/-! ### Paths in which only a slash separates segments -/

/-- The path of a URL that needs no host, from the text before the query; it may be empty. -/
def parsePlain (cs : List Char) : Path :=
  match cs with
  | [] => []
  | c :: rest =>
    let cs := if c == '/' then rest else c :: rest
    pushAll [] ((Text.pieces (· == '/') cs).map (percentEncode .path))

/-- Such a path with an operation path after it. -/
def extendPlain (base : Path) (operation : List Char) : Path :=
  (namedPieces operation).foldl (appendPiece .plainSegment) base.closed

end Path

end Deployer.Url
