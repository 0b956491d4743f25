import Deployer.Text.Bytes

/-!
# Percent-encoding

A character that must not stand as it is in some part of a URL is replaced by `%` and two upper-case
hexadecimal digits for each byte of its UTF-8 form. Which ASCII characters these are depends on the
part; characters beyond ASCII are always encoded. Only the sets for appended path segments contain the
percent sign, so for the others encoding what is encoded already changes nothing.
-/

namespace Deployer.Url

/-- The ASCII characters that a part of a URL encodes. -/
abbrev EncodeSet := Char → Bool

namespace EncodeSet

/-- The control characters. -/
def control : EncodeSet := fun c => c.toNat < 0x20 || c.toNat == 0x7F

/-- A set with some more characters. -/
def adding (set : EncodeSet) (more : List Char) : EncodeSet := fun c => set c || more.contains c

/-- For fragments. -/
def fragment : EncodeSet := control.adding [' ', '"', '<', '>', '\x60']

/-- For queries, under a scheme whose URLs need no host. -/
def plainQuery : EncodeSet := control.adding [' ', '"', '#', '<', '>']

/-- For queries, under a scheme whose URLs have a host. -/
def query : EncodeSet := plainQuery.adding ['\'']

/-- For paths that are parsed. -/
def path : EncodeSet := fragment.adding ['#', '?', '\x7b', '\x7d']

/-- For user names and passwords. -/
def userinfo : EncodeSet := path.adding ['/', ':', ';', '=', '@', '[', '\\', ']', '^', '|']

/-- For single segments that are appended to a path in which only a slash separates segments. -/
def plainSegment : EncodeSet := path.adding ['/', '%']

/-- For single segments that are appended to any other path. -/
def segment : EncodeSet := plainSegment.adding ['\\']

end EncodeSet

/-- The percent sign and two hexadecimal digits for a byte. -/
def encodeByte (b : UInt8) : List Char :=
  let digit (n : Nat) : Char := if n < 10 then Char.ofNat (0x30 + n) else Char.ofNat (0x37 + n)
  ['%', digit (b.toNat / 16), digit (b.toNat % 16)]

/-- The characters that stand for `c`. -/
def encodeChar (set : EncodeSet) (c : Char) : List Char :=
  if c.toNat < 0x80 && !set c then [c] else (String.utf8EncodeChar c).flatMap encodeByte

/-- Percent-encodes what must not stand as it is. -/
def percentEncode (set : EncodeSet) (cs : List Char) : List Char := cs.flatMap (encodeChar set)

/-- The value of a hexadecimal digit. -/
def hexValue? (b : UInt8) : Option Nat :=
  let n := b.toNat
  if 0x30 ≤ n ∧ n ≤ 0x39 then some (n - 0x30)
  else if 0x41 ≤ n ∧ n ≤ 0x46 then some (n - 0x41 + 10)
  else if 0x61 ≤ n ∧ n ≤ 0x66 then some (n - 0x61 + 10)
  else none

/-- Replaces each percent sign that two hexadecimal digits follow; others stay. -/
def percentDecode : Bytes → Bytes
  | [] => []
  | [a] => [a]
  | [a, b] => [a, b]
  | a :: b :: c :: rest =>
    if a = byte '%' then
      match hexValue? b, hexValue? c with
      | some high, some low => (high * 16 + low).toUInt8 :: percentDecode rest
      | _, _ => a :: percentDecode (b :: c :: rest)
    else a :: percentDecode (b :: c :: rest)

/-- The text that a percent-encoded text stands for, if it is well formed. -/
def percentDecodeText? (s : String) : Option String := Utf8.decode? (percentDecode (Text.bytes s))

end Deployer.Url
