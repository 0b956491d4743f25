import Deployer.Url.Path

/-!
# Paths of files

The first segment of a file's path may be its drive: a letter with a colon, or with a bar, which
becomes a colon. Where a dropped character stands between a drive with a colon and more text, that text
is a segment of its own, in which dots mean nothing; the drive is then taken for a name like any other.

Segments are pushed one at a time, as on any path. Whether a segment is the first is decided while the
path is read: an empty segment in front of a drive keeps its bar, even though a path of a file has no
empty segments in front when all of it has been read.
-/

namespace Deployer.Url

/-- The path of a file, and whether it was found to begin with a drive. -/
structure FilePath where
  path : Path
  drive : Bool

namespace FilePath

/-- Whether a segment is a letter and a colon or bar. -/
def isDriveLetter : List Char → Bool
  | [letter, c] => letter.isAlpha && (c == ':' || c == '|')
  | _ => false

/-- The characters of a piece that are not dropped. -/
def kept (piece : List Char) : List Char := piece.filter (!Path.isDropped ·)

/-- A drive with a colon and the text after it, where a dropped character parts the two. -/
def cutParted (piece : List Char) : Option (List Char × List Char) :=
  match kept piece, piece.dropWhile (· != ':') with
  | letter :: ':' :: c :: rest, _ :: parting :: _ =>
    if letter.isAlpha && Path.isDropped parting then some ([letter, ':'], c :: rest) else none
  | _, _ => none

/-- A path with one more segment, in which the characters of a set are encoded; `last` tells whether it
ends the path. -/
def push (set : EncodeSet) (file : FilePath) (piece : List Char) (last : Bool) : FilePath :=
  let segment := percentEncode set (kept piece)
  match file.path.isEmpty, isDriveLetter segment, cutParted piece with
  | true, true, _ => ⟨[String.ofList (segment.take 1 ++ [':'])], true⟩
  | true, false, some (drive, rest) =>
    { file with path := [String.ofList drive, String.ofList (percentEncode set rest)] }
  | _, _, _ => { file with path := file.path.push segment last }

/-- A path with more segments, of which the last ends it. -/
def pushAll (file : FilePath) : List (List Char) → FilePath
  | [] => file
  | [piece] => file.push .path piece true
  | piece :: rest => pushAll (file.push .path piece false) rest

/-- The segments without the empty ones in front. -/
def segments (file : FilePath) : Path :=
  match file.path.dropWhile (·.isEmpty) with
  | [] => Path.root
  | segments => segments

/-- The path of a file, from the text before the query. -/
def parse (cs : List Char) : FilePath := pushAll ⟨[], false⟩ (Text.pieces Path.isSlash cs)

/-- A path with one more piece of an operation path. An empty path is filled, not lengthened. -/
def appendPiece (path : Path) (piece : List Char) : Path :=
  (push .segment ⟨if path = Path.root then [] else path, false⟩ piece true).segments

/-- A base path with an operation path after it. -/
def extend (base : Path) (operation : List Char) : Path :=
  (Path.namedPieces operation).foldl appendPiece base.closed

end FilePath

end Deployer.Url
