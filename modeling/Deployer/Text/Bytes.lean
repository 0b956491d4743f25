/-!
# Text as bytes

Texts are exchanged as UTF-8. `Text.bytes` is the encoding of a text, `Utf8.scan` reads bytes
back one character at a time and marks what is malformed: each **maximal ill-formed piece**, that
is, a byte that opens no character, or the longest part of a character that was cut short, gives one
mark. `Utf8.decode?` refuses any mark and `Utf8.lossy` writes U+FFFD for each.
-/

namespace Deployer

/-- A sequence of octets. -/
abbrev Bytes := List UInt8

/-- The octet of an ASCII character. -/
def byte (c : Char) : UInt8 := c.toNat.toUInt8

/-- The UTF-8 encoding of a text. -/
def Text.bytes (s : String) : Bytes := s.toList.flatMap String.utf8EncodeChar

namespace Utf8

/-- A character whose first byte has been read: `more` bytes follow the next one, the next one lies
between `low` and `high`, and `bits` is what the bytes so far contribute. -/
structure Pending where
  more : Nat
  low : UInt8
  high : UInt8
  bits : Nat

/-- What a byte at the start of a character says. -/
inductive Lead where
  | plain (c : Char)
  | opens (p : Pending)
  | stray

/-- The bytes that may start a character. The ranges of the second byte leave out overlong forms,
surrogates and values beyond U+10FFFF. -/
def lead (b : UInt8) : Lead :=
  let n := b.toNat
  if n < 0x80 then .plain (Char.ofNat n)
  else if n < 0xC2 then .stray
  else if n < 0xE0 then .opens ⟨0, 0x80, 0xBF, n - 0xC0⟩
  else if n = 0xE0 then .opens ⟨1, 0xA0, 0xBF, 0⟩
  else if n = 0xED then .opens ⟨1, 0x80, 0x9F, 0xD⟩
  else if n < 0xF0 then .opens ⟨1, 0x80, 0xBF, n - 0xE0⟩
  else if n = 0xF0 then .opens ⟨2, 0x90, 0xBF, 0⟩
  else if n < 0xF4 then .opens ⟨2, 0x80, 0xBF, n - 0xF0⟩
  else if n = 0xF4 then .opens ⟨2, 0x80, 0x8F, 4⟩
  else .stray

/-- The characters of a byte sequence, with `none` for each maximal ill-formed piece. The first
argument is the character that is under way. -/
def scan : Option Pending → Bytes → List (Option Char)
  | none, [] => []
  | some _, [] => [none]
  | none, b :: rest =>
    match lead b with
    | .plain c => some c :: scan none rest
    | .opens p => scan (some p) rest
    | .stray => none :: scan none rest
  | some p, b :: rest =>
    if p.low ≤ b ∧ b ≤ p.high then
      let bits := p.bits * 64 + b.toNat % 64
      match p.more with
      | 0 => some (Char.ofNat bits) :: scan none rest
      | more + 1 => scan (some ⟨more, 0x80, 0xBF, bits⟩) rest
    else
      none :: match lead b with
        | .plain c => some c :: scan none rest
        | .opens q => scan (some q) rest
        | .stray => none :: scan none rest

/-- The text that a byte sequence encodes, if it is well formed. -/
def decode? (bs : Bytes) : Option String :=
  ((scan none bs).mapM id).map String.ofList

/-- The text of a byte sequence, with U+FFFD for each maximal ill-formed piece. -/
def lossy (bs : Bytes) : String :=
  String.ofList ((scan none bs).map (·.getD '\uFFFD'))

/-- At most `limit` bytes of a byte sequence as text; a sequence that was cut says how long it is. -/
def excerpt (limit : Nat) (bs : Bytes) : String :=
  if bs.length ≤ limit then lossy bs
  else lossy (bs.take limit) ++ s!"... ({bs.length} bytes total)"

end Utf8

end Deployer
