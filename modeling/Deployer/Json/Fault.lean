import Deployer.Json.Printer
import Deployer.Text.Bytes
import Deployer.Text.Quoted

/-!
# Why a JSON text is refused

A `Fault` is the cause, a `Refusal` adds what had not been read yet when the fault was found.
`Refusal.message` names the fault and its place: the line, counted from one, and the number of bytes
of that line that had been read.
-/

namespace Deployer.Json

/-- What was found where something else was expected. -/
inductive Found where
  | null
  | bool (value : Bool)
  | integer (value : Int)
  | float (value : Binary64)
  | string (value : String)
  | sequence
  | map
deriving DecidableEq

/-- What a reader expects. -/
inductive Expected where
  | string
  | boolean
  | unsigned (bits : Nat)
  | unit
  | record (name : String)
deriving DecidableEq

inductive Fault where
  | endInValue
  | endInArray
  | endInObject
  | endInString
  | noColon
  | noCommaInArray
  | noCommaInObject
  | badWord
  | noValue
  | badEscape
  | badNumber
  | outOfRange
  | badUtf8
  | controlCharacter
  | keyNotString
  | loneSurrogate
  | halfSurrogatePair
  | trailingComma
  | trailingText
  | tooDeep
  | wrongType (found : Found) (expected : Expected)
  | wrongValue (found : Found) (expected : Expected)
  | wrongLength (length : Nat) (record : String) (fields : Nat)
  | missingField (name : String)
  | repeatedField (name : String)
  | unknownVariant (name : String) (known : List String)
deriving DecidableEq

/-- A fault with the part of the text that was not yet read when it was found. -/
structure Refusal where
  fault : Fault
  rest : Bytes
deriving DecidableEq

/-- What was found, in words. -/
def Found.text : Found → String
  | null => "null"
  | bool b => "boolean `" ++ (if b then "true" else "false") ++ "`"
  | integer n => "integer `" ++ String.ofList (writeInt n) ++ "`"
  | float x => "floating point `" ++ String.ofList x.text ++ "`"
  | string s => "string " ++ Text.quoted s
  | sequence => "sequence"
  | map => "map"

/-- What was expected, in words. -/
def Expected.text : Expected → String
  | string => "a string"
  | boolean => "a boolean"
  | unsigned bits => "u" ++ Nat.repr bits
  | unit => "unit"
  | record name => "struct " ++ name

/-- A name between grave accents. -/
def ticked (name : String) : String := "`" ++ name ++ "`"

/-- The fault in words. -/
def Fault.text : Fault → String
  | endInValue => "EOF while parsing a value"
  | endInArray => "EOF while parsing a list"
  | endInObject => "EOF while parsing an object"
  | endInString => "EOF while parsing a string"
  | noColon => "expected `:`"
  | noCommaInArray => "expected `,` or `]`"
  | noCommaInObject => "expected `,` or `\x7d`"
  | badWord => "expected ident"
  | noValue => "expected value"
  | badEscape => "invalid escape"
  | badNumber => "invalid number"
  | outOfRange => "number out of range"
  | badUtf8 => "invalid unicode code point"
  | controlCharacter => "control character (\\u0000-\\u001F) found while parsing a string"
  | keyNotString => "key must be a string"
  | loneSurrogate => "lone leading surrogate in hex escape"
  | halfSurrogatePair => "unexpected end of hex escape"
  | trailingComma => "trailing comma"
  | trailingText => "trailing characters"
  | tooDeep => "recursion limit exceeded"
  | wrongType found expected => "invalid type: " ++ found.text ++ ", expected " ++ expected.text
  | wrongValue found expected => "invalid value: " ++ found.text ++ ", expected " ++ expected.text
  | wrongLength length name fields =>
    "invalid length " ++ Nat.repr length ++ ", expected struct " ++ name ++ " with " ++
      Nat.repr fields ++ " elements"
  | missingField name => "missing field " ++ ticked name
  | repeatedField name => "duplicate field " ++ ticked name
  | unknownVariant name known =>
    "unknown variant " ++ ticked name ++ ", expected one of " ++
      String.intercalate ", " (known.map ticked)

/-- The line feed. -/
def lineFeed : UInt8 := byte '\n'

/-- The place after so much of a text has been read: the line, and the bytes read of that line. -/
def position (read : Bytes) : Nat × Nat :=
  (read.count lineFeed + 1, (read.reverse.takeWhile (· != lineFeed)).length)

/-- The message for a refused text. -/
def Refusal.message (text : Bytes) (r : Refusal) : String :=
  let (line, column) := position (text.take (text.length - r.rest.length))
  r.fault.text ++ " at line " ++ Nat.repr line ++ " column " ++ Nat.repr column

end Deployer.Json
