import Deployer.Text.Bytes
import Deployer.Text.Pieces

/-!
# File trees

A `FileTree` is a file or a directory. A path is walked one name at a time from the working
directory: `.` and an empty name stay in a directory, `..` leaves it, and every name but the last must
lead into one. A path, like a name, has a greatest length.

Little is known of what lies outside the working directory: a path with a slash in front starts at the
root of the system, which has its usual directories and the empty file `/dev/null`, and what is above
the working directory counts as an empty directory.
-/

namespace Deployer

inductive FileTree where
  | file (content : Bytes)
  | directory (entries : List (String × FileTree))

/-- Why a file cannot be read as a text. -/
inductive FileFault where
  | missing
  | isDirectory
  | notDirectory
  | nameTooLong
  | zeroInPath
  | notText
deriving DecidableEq, Repr

/-- The fault in words. -/
def FileFault.text : FileFault → String
  | missing => "No such file or directory (os error 2)"
  | isDirectory => "Is a directory (os error 21)"
  | notDirectory => "Not a directory (os error 20)"
  | nameTooLong => "File name too long (os error 36)"
  | zeroInPath => "file name contained an unexpected NUL byte"
  | notText => "stream did not contain valid UTF-8"

namespace FileTree

/-- The most bytes that a name in a directory may have. -/
def maxNameLength : Nat := 255

/-- The most bytes that a path may have. -/
def maxPathLength : Nat := 4095

/-- Walks names from a place in a tree; `above` holds the directories around it, the nearest first, and
`top` is what the outermost of them leads to. -/
def walk (top : FileTree) : (above : List FileTree) → (here : FileTree) → List String →
    Except FileFault FileTree
  | _, here, [] => .ok here
  | _, file _, _ :: _ => .error .notDirectory
  | above, directory entries, name :: rest =>
    if name.isEmpty || name == "." then walk top above (directory entries) rest
    else if name == ".." then walk top above.tail (above.headD top) rest
    else if maxNameLength < (Text.bytes name).length then .error .nameTooLong
    else
      match entries.lookup name with
      | some next => walk top (directory entries :: above) next rest
      | none => .error .missing

/-- The root of the system, with its usual directories. -/
def root : FileTree :=
  directory <|
    ("dev", directory [("null", file [])]) ::
      ["bin", "boot", "etc", "home", "lib", "media", "mnt", "opt", "proc", "root", "run", "sbin", "srv",
        "sys", "tmp", "usr", "var"].map fun name => (name, directory [])

/-- The place that a path leads to from the working directory. -/
def locate (tree : FileTree) (path : String) : Except FileFault FileTree :=
  let names := (Text.pieces (· == '/') path.toList).map String.ofList
  if path.isEmpty then .error .missing
  else if maxPathLength < (Text.bytes path).length then .error .nameTooLong
  else if path.toList.head? = some '/' then walk root [] root names
  else walk (directory []) [] tree names

/-- The bytes of the file that a path leads to, which must be the encoding of a text. -/
def readText (tree : FileTree) (path : String) : Except FileFault Bytes := do
  if path.toList.contains '\x00' then throw .zeroInPath
  match ← tree.locate path with
  | directory _ => throw .isDirectory
  | file content => if (Utf8.decode? content).isSome then return content else throw .notText

end FileTree

end Deployer
