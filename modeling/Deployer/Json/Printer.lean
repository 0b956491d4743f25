import Deployer.Json.Value

/-!
# JSON text of a value

`Value.write` prints a value in a `Style`. The compact style has no blanks at all. The indented one
starts each item on a line of its own, two spaces deeper than the bracket, and puts a space after a
colon. Both write an empty array as `[]` and an empty object as `{}`. In a string only the quote, the
backslash and the characters below U+0020 are escaped.
-/

namespace Deployer.Json

/-- The characters that stand for `c` in a JSON string. -/
def escapeChar (c : Char) : List Char :=
  let n := c.toNat
  if c == '"' then ['\\', '"']
  else if c == '\\' then ['\\', '\\']
  else if 0x20 ≤ n then [c]
  else if n == 0x08 then ['\\', 'b']
  else if n == 0x09 then ['\\', 't']
  else if n == 0x0A then ['\\', 'n']
  else if n == 0x0C then ['\\', 'f']
  else if n == 0x0D then ['\\', 'r']
  else ['\\', 'u', '0', '0', if n < 0x10 then '0' else '1', Nat.digitChar (n % 16)]

/-- A JSON string. -/
def writeString (s : String) : List Char := '"' :: s.toList.flatMap escapeChar ++ ['"']

/-- An integer in decimal. -/
def writeInt (n : Int) : List Char :=
  if n < 0 then '-' :: Nat.toDigits 10 n.natAbs else Nat.toDigits 10 n.natAbs

/-- A JSON number. -/
def Number.write : Number → List Char
  | .int n => writeInt n
  | .float x => x.text

/-- Where the blanks of a printed value stand: before an item and before the closing bracket at a
depth, and after a colon. -/
structure Style where
  line : Nat → List Char
  afterColon : List Char

/-- No blanks. -/
def Style.compact : Style := ⟨fun _ => [], []⟩

/-- One item a line, indented by two spaces a level. -/
def Style.indented : Style := ⟨fun depth => '\n' :: List.replicate (2 * depth) ' ', [' ']⟩

mutual

/-- A value printed at a depth. -/
def Value.write (style : Style) (depth : Nat) : Value → List Char
  | .null => ['n', 'u', 'l', 'l']
  | .bool true => ['t', 'r', 'u', 'e']
  | .bool false => ['f', 'a', 'l', 's', 'e']
  | .number n => n.write
  | .string s => writeString s
  | .array [] => ['[', ']']
  | .array (v :: vs) =>
    '[' :: (style.line (depth + 1) ++ Value.write style (depth + 1) v ++
      writeItems style (depth + 1) vs ++ style.line depth ++ [']'])
  | .object [] => ['\x7b', '\x7d']
  | .object ((k, v) :: ms) =>
    '\x7b' :: (style.line (depth + 1) ++ writeString k ++ ':' :: style.afterColon ++
      Value.write style (depth + 1) v ++ writeMembers style (depth + 1) ms ++
      style.line depth ++ ['\x7d'])

/-- The items of an array after the first, each with the comma before it. -/
def writeItems (style : Style) (depth : Nat) : List Value → List Char
  | [] => []
  | v :: vs =>
    ',' :: (style.line depth ++ Value.write style depth v ++ writeItems style depth vs)

/-- The members of an object after the first, each with the comma before it. -/
def writeMembers (style : Style) (depth : Nat) : List (String × Value) → List Char
  | [] => []
  | (k, v) :: ms =>
    ',' :: (style.line depth ++ writeString k ++ ':' :: style.afterColon ++
      Value.write style depth v ++ writeMembers style depth ms)

end

/-- The compact text of a value. -/
def Value.compact (v : Value) : String := String.ofList (v.write .compact 0)

/-- The indented text of a value. -/
def Value.indented (v : Value) : String := String.ofList (v.write .indented 0)

end Deployer.Json
