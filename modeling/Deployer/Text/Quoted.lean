import Deployer.Text.Printable

/-!
# Quoted texts

`Text.quoted` shows a text between double quotes for a message. Tab, carriage return, line feed and
NUL have two-character forms, the quote and the backslash are escaped, and any other character that
cannot be printed is written as `\u` with its code point in braces, in lower-case hexadecimal.
-/

namespace Deployer.Text

/-- The characters that stand for `c` between double quotes. -/
def quotedChar (c : Char) : List Char :=
  let n := c.toNat
  if c == '\x00' then ['\\', '0']
  else if c == '\t' then ['\\', 't']
  else if c == '\r' then ['\\', 'r']
  else if c == '\n' then ['\\', 'n']
  else if c == '"' then ['\\', '"']
  else if c == '\\' then ['\\', '\\']
  else if (0x20 ≤ n && n < 0x7F) || (0x7F < n && isPrintable c) then [c]
  else ['\\', 'u', '\x7b'] ++ Nat.toDigits 16 n ++ ['\x7d']

/-- A text between double quotes. -/
def quoted (s : String) : String :=
  String.ofList ('"' :: s.toList.flatMap quotedChar ++ ['"'])

end Deployer.Text
