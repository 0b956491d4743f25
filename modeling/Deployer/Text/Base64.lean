import Deployer.Text.Bytes

/-!
# Base64

Each three octets are written as four characters that stand for six bits each; one or two octets at
the end are filled up with zeros, and with `=` for each character that would hold nothing.
-/

namespace Deployer.Text

/-- The character of six bits. -/
def base64Char (n : Nat) : Char :=
  if n < 26 then Char.ofNat (0x41 + n)
  else if n < 52 then Char.ofNat (0x61 + (n - 26))
  else if n < 62 then Char.ofNat (0x30 + (n - 52))
  else if n = 62 then '+'
  else '/'

/-- The first so many of the four characters of three octets. -/
def base64Group (count a b c : Nat) : List Char :=
  let word := a * 65536 + b * 256 + c
  (([262144, 4096, 64, 1].map fun unit => base64Char (word / unit % 64)).take count) ++
    List.replicate (4 - count) '='

/-- The characters that stand for octets. -/
def base64 : Bytes → List Char
  | a :: b :: c :: rest => base64Group 4 a.toNat b.toNat c.toNat ++ base64 rest
  | [a, b] => base64Group 3 a.toNat b.toNat 0
  | [a] => base64Group 2 a.toNat 0 0
  | [] => []

end Deployer.Text
