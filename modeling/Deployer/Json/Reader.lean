import Deployer.Json.Lexeme

/-!
# Reading JSON values

`readValue` reads one value and returns what follows it. It takes two bounds. `depth` is part of the
format: so many brackets may still be opened, and `maxDepth` is where a text starts. `fuel` only makes
the recursion structural: each step takes at least one byte, so the number of bytes suffices, and
`Value.read` supplies it.

`Value.ofBytes` reads a whole text, which must hold one value and blanks. Repeated keys of an object
collapse to the last.
-/

namespace Deployer.Json

/-- How many brackets may be open at once. -/
def maxDepth : Nat := 127

/-- What the first byte of a value announces. -/
inductive Start where
  | null
  | true
  | false
  | number
  | string
  | array
  | object
  | other
deriving DecidableEq

/-- The kind of value that a byte announces. -/
def Start.of (b : UInt8) : Start :=
  if b = byte 'n' then null
  else if b = byte 't' then true
  else if b = byte 'f' then false
  else if b = byte '-' ∨ isDigit b then number
  else if b = byte '"' then string
  else if b = byte '[' then array
  else if b = byte '\x7b' then object
  else other

/-- Whether an item of an array follows; if not, its closing bracket does, which is not taken. -/
def nextItem (first : Bool) (s : Bytes) : Except Refusal (Bool × Bytes) :=
  match skipBlanks s with
  | [] => .error ⟨.endInArray, []⟩
  | b :: r =>
    if b = byte ']' then .ok (false, b :: r)
    else if first then .ok (true, b :: r)
    else if b = byte ',' then
      match skipBlanks r with
      | [] => .error ⟨.endInValue, []⟩
      | c :: r => if c = byte ']' then refuseAt .trailingComma (c :: r) else .ok (true, c :: r)
    else refuseAt .noCommaInArray (b :: r)

/-- The key of the next member of an object, or `none` at its closing bracket, which is not taken. -/
def nextKey (first : Bool) (s : Bytes) : Except Refusal (Option String × Bytes) :=
  match skipBlanks s with
  | [] => .error ⟨.endInObject, []⟩
  | b :: r =>
    if b = byte '\x7d' then .ok (none, b :: r)
    else
      let start : Except Refusal Bytes :=
        if first then .ok (b :: r)
        else if b = byte ',' then .ok (skipBlanks r)
        else refuseAt .noCommaInObject (b :: r)
      match start with
      | .error e => .error e
      | .ok [] => .error ⟨.endInValue, []⟩
      | .ok (c :: r) =>
        if c = byte '"' then
          match readString r with
          | .ok (key, r) => .ok (some key, r)
          | .error e => .error e
        else if c = byte '\x7d' then refuseAt .trailingComma (c :: r)
        else refuseAt .keyNotString (c :: r)

/-- What follows the colon after a key. -/
def readColon (s : Bytes) : Except Refusal Bytes :=
  match skipBlanks s with
  | [] => .error ⟨.endInObject, []⟩
  | b :: r => if b = byte ':' then .ok r else refuseAt .noColon (b :: r)

mutual

/-- Reads a value, blanks before it included. -/
def readValue : (fuel depth : Nat) → Reader Value
  | 0, _, s => .error ⟨.endInValue, s⟩
  | fuel + 1, depth, s =>
    match skipBlanks s with
    | [] => .error ⟨.endInValue, []⟩
    | b :: r =>
      match Start.of b with
      | .null => (readWord ['u', 'l', 'l'] r).map (Value.null, ·)
      | .true => (readWord ['r', 'u', 'e'] r).map (Value.bool Bool.true, ·)
      | .false => (readWord ['a', 'l', 's', 'e'] r).map (Value.bool Bool.false, ·)
      | .number => (readNumber (b :: r)).map fun (n, rest) => (.number n, rest)
      | .string => (readString r).map fun (t, rest) => (.string t, rest)
      | .array =>
        match depth with
        | 0 => refuseAt .tooDeep (b :: r)
        | depth + 1 => (readItems fuel depth true r).map fun (vs, rest) => (.array vs, rest)
      | .object =>
        match depth with
        | 0 => refuseAt .tooDeep (b :: r)
        | depth + 1 => (readMembers fuel depth true [] r).map fun (ms, rest) => (.object ms, rest)
      | .other => refuseAt .noValue (b :: r)

/-- Reads the items of an array and its closing bracket. -/
def readItems : (fuel depth : Nat) → (first : Bool) → Reader (List Value)
  | 0, _, _, s => .error ⟨.endInArray, s⟩
  | fuel + 1, depth, first, s =>
    match nextItem first s with
    | .error e => .error e
    | .ok (false, r) => .ok ([], r.drop 1)
    | .ok (true, r) =>
      match readValue fuel depth r with
      | .error e => .error e
      | .ok (v, r) => (readItems fuel depth false r).map fun (vs, rest) => (v :: vs, rest)

/-- Reads the members of an object and its closing bracket, and adds them to those already there. -/
def readMembers : (fuel depth : Nat) → (first : Bool) → List (String × Value) →
    Reader (List (String × Value))
  | 0, _, _, _, s => .error ⟨.endInObject, s⟩
  | fuel + 1, depth, first, members, s =>
    match nextKey first s with
    | .error e => .error e
    | .ok (none, r) => .ok (members, r.drop 1)
    | .ok (some key, r) =>
      match readColon r with
      | .error e => .error e
      | .ok r =>
        match readValue fuel depth r with
        | .error e => .error e
        | .ok (v, r) => readMembers fuel depth false (insertMember key v members) r

end

/-- Reads a value in which so many brackets may be opened. -/
def Value.read (depth : Nat) : Reader Value := fun s => readValue (2 * s.length + 2) depth s

/-- Refuses anything but blanks. -/
def readEnd (s : Bytes) : Except Refusal Unit :=
  match skipBlanks s with
  | [] => .ok ()
  | b :: r => refuseAt .trailingText (b :: r)

/-- Reads a whole text with a reader. -/
def readAll {α : Type} (read : Reader α) (text : Bytes) : Except Refusal α := do
  let (a, rest) ← read text
  readEnd rest
  return a

/-- The value of a whole text. -/
def Value.ofBytes (text : Bytes) : Except Refusal Value := readAll (Value.read maxDepth) text

/-- The value of a whole text, or the message that refuses it. -/
def Value.parse (text : Bytes) : Except String Value :=
  (Value.ofBytes text).mapError (·.message text)

end Deployer.Json
