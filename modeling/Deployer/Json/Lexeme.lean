import Deployer.Json.Fault

/-!
# Reading words, strings and numbers

A `Reader` takes its lexeme off the front of the bytes and returns what remains. The readers here are
entered at the lexeme's first byte, blanks having been skipped. A fault that lies in a byte already
taken is placed after that byte; one found by looking ahead is placed after the byte looked at, which
is still unread (`refuseAt`).

The string reader decodes the escapes and then requires the whole to be UTF-8. An escaped surrogate
must be the first half of a pair of escapes.

A numeral with neither a fraction nor an exponent is an integer when it fits 64 bits; `-0` and all
others are binary64. The digits enter an accumulator of 64 bits: further integer digits only raise
the exponent, further fraction digits are dropped.
-/

namespace Deployer.Json

/-- Reads something off the front of a byte sequence. -/
abbrev Reader (α : Type) := Bytes → Except Refusal (α × Bytes)

/-- Refuses at the byte in front, which has been looked at but not taken. -/
def refuseAt {α : Type} (fault : Fault) (s : Bytes) : Except Refusal α := .error ⟨fault, s.drop 1⟩

/-- The four blanks of JSON. -/
def isBlank (b : UInt8) : Bool :=
  b == byte ' ' || b == byte '\n' || b == byte '\t' || b == byte '\r'

/-- What remains after leading blanks. -/
def skipBlanks (s : Bytes) : Bytes := s.dropWhile isBlank

/-- What remains after a word, whose first letter has already been taken. -/
def readWord : List Char → Bytes → Except Refusal Bytes
  | [], s => .ok s
  | _ :: _, [] => .error ⟨.endInValue, []⟩
  | c :: cs, b :: s => if b = byte c then readWord cs s else .error ⟨.badWord, s⟩

/-! ### Strings -/

/-- The character that a backslash and one byte stand for. -/
def simpleEscape? (b : UInt8) : Option UInt8 :=
  if b = byte '"' then some b
  else if b = byte '\\' then some b
  else if b = byte '/' then some b
  else if b = byte 'b' then some 0x08
  else if b = byte 'f' then some 0x0C
  else if b = byte 'n' then some 0x0A
  else if b = byte 'r' then some 0x0D
  else if b = byte 't' then some 0x09
  else none

/-- The value of a hexadecimal digit. -/
def hexDigit? (b : UInt8) : Option Nat :=
  let n := b.toNat
  if 0x30 ≤ n ∧ n ≤ 0x39 then some (n - 0x30)
  else if 0x41 ≤ n ∧ n ≤ 0x46 then some (n - 0x41 + 10)
  else if 0x61 ≤ n ∧ n ≤ 0x66 then some (n - 0x61 + 10)
  else none

/-- The value of four hexadecimal digits. -/
def hexUnit? (a b c d : UInt8) : Option Nat := do
  let a ← hexDigit? a
  let b ← hexDigit? b
  let c ← hexDigit? c
  let d ← hexDigit? d
  return ((a * 16 + b) * 16 + c) * 16 + d

/-- The first half of a surrogate pair. -/
def isHighSurrogate (n : Nat) : Bool := 0xD800 ≤ n && n < 0xDC00

/-- The second half of a surrogate pair. -/
def isLowSurrogate (n : Nat) : Bool := 0xDC00 ≤ n && n < 0xE000

/-- The character of a surrogate pair. -/
def pairedChar (high low : Nat) : Char :=
  Char.ofNat ((high - 0xD800) * 0x400 + (low - 0xDC00) + 0x10000)

/-- Puts bytes in front of what a string reader returns. -/
def prepend (bs : Bytes) (r : Except Refusal (Bytes × Bytes)) : Except Refusal (Bytes × Bytes) :=
  r.map fun (s, rest) => (bs ++ s, rest)

/-- The content of a string, from the byte after its opening quote, with its escapes decoded. -/
def stringBody : Reader Bytes
  | [] => .error ⟨.endInString, []⟩
  | b :: s =>
    if b = byte '"' then .ok ([], s)
    else if b = byte '\\' then
      match s with
      | [] => .error ⟨.endInString, []⟩
      | e :: s =>
        if e = byte 'u' then
          match s with
          | h₁ :: h₂ :: h₃ :: h₄ :: s =>
            match hexUnit? h₁ h₂ h₃ h₄ with
            | none => .error ⟨.badEscape, s⟩
            | some high =>
              if isLowSurrogate high then .error ⟨.loneSurrogate, s⟩
              else if !isHighSurrogate high then
                prepend (String.utf8EncodeChar (Char.ofNat high)) (stringBody s)
              else
                match s with
                | [] => .error ⟨.endInString, []⟩
                | b :: s =>
                  if b ≠ byte '\\' then .error ⟨.halfSurrogatePair, s⟩
                  else
                    match s with
                    | [] => .error ⟨.endInString, []⟩
                    | u :: s =>
                      if u ≠ byte 'u' then .error ⟨.halfSurrogatePair, s⟩
                      else
                        match s with
                        | l₁ :: l₂ :: l₃ :: l₄ :: s =>
                          match hexUnit? l₁ l₂ l₃ l₄ with
                          | none => .error ⟨.badEscape, s⟩
                          | some low =>
                            if !isLowSurrogate low then .error ⟨.loneSurrogate, s⟩
                            else
                              prepend (String.utf8EncodeChar (pairedChar high low)) (stringBody s)
                        | _ => .error ⟨.endInString, []⟩
          | _ => .error ⟨.endInString, []⟩
        else
          match simpleEscape? e with
          | some c => prepend [c] (stringBody s)
          | none => .error ⟨.badEscape, s⟩
    else if b < 0x20 then .error ⟨.controlCharacter, s⟩
    else prepend [b] (stringBody s)

/-- A string, from the byte after its opening quote. -/
def readString : Reader String := fun s => do
  let (content, rest) ← stringBody s
  match Utf8.decode? content with
  | some text => .ok (text, rest)
  | none => .error ⟨.badUtf8, rest⟩

/-! ### Numbers -/

/-- A decimal digit. -/
def isDigit (b : UInt8) : Bool := byte '0' ≤ b && b ≤ byte '9'

/-- The value of a decimal digit. -/
def digitValue (b : UInt8) : Nat := b.toNat - 0x30

/-- The digits in front, and what remains. -/
def readDigits (s : Bytes) : Bytes × Bytes := (s.takeWhile isDigit, s.dropWhile isDigit)

/-- The integer digits of a numeral: a zero that no digit follows, or digits that do not begin with
zero. -/
def readWhole : Reader Bytes
  | [] => .error ⟨.endInValue, []⟩
  | b :: s =>
    if b = byte '0' then
      match s with
      | c :: _ => if isDigit c then refuseAt .badNumber s else .ok ([b], s)
      | [] => .ok ([b], s)
    else if isDigit b then
      let (more, rest) := readDigits s
      .ok (b :: more, rest)
    else .error ⟨.badNumber, s⟩

/-- The fraction of a numeral, if it has one: a point and at least one digit. -/
def readFraction : Reader (Option Bytes)
  | [] => .ok (none, [])
  | b :: s =>
    if b = byte '.' then
      match readDigits s with
      | ([], []) => .error ⟨.endInValue, []⟩
      | ([], rest) => refuseAt .badNumber rest
      | (digits, rest) => .ok (some digits, rest)
    else .ok (none, b :: s)

/-- The exponent of a numeral, if it has one: a letter, perhaps a sign, and at least one digit. -/
def readExponent : Reader (Option (Bool × Bytes))
  | [] => .ok (none, [])
  | b :: s =>
    if b = byte 'e' ∨ b = byte 'E' then
      let (negative, s) := match s with
        | [] => (false, [])
        | c :: r =>
          if c = byte '-' then (true, r) else if c = byte '+' then (false, r) else (false, s)
      match s with
      | [] => .error ⟨.endInValue, []⟩
      | c :: r =>
        if isDigit c then
          let (digits, rest) := readDigits s
          .ok (some (negative, digits), rest)
        else .error ⟨.badNumber, r⟩
    else .ok (none, b :: s)

/-- The largest integer that the accumulator of digits holds. -/
def maxDigits : Nat := 0xFFFFFFFFFFFFFFFF

/-- Adds digits to an accumulator as long as they fit; the digits that were not added remain. -/
def accumulate (acc : Nat) : Bytes → Nat × Bytes
  | [] => (acc, [])
  | b :: s =>
    let next := acc * 10 + digitValue b
    if next ≤ maxDigits then accumulate next s else (acc, b :: s)

/-- The greatest exponent that a numeral may spell out. -/
def maxExponent : Nat := 0x7FFFFFFF

/-- The value of the digits of an exponent, or the digits that remain once it is too large. -/
def exponentValue (acc : Nat) : Bytes → Except Bytes Nat
  | [] => .ok acc
  | b :: s =>
    let next := acc * 10 + digitValue b
    if next ≤ maxExponent then exponentValue next s else .error s

/-- A signed binary64 number. -/
def signed (negative : Bool) (x : Binary64) : Number := .float (if negative then x.neg else x)

/-- The number of a numeral with a fraction, an exponent, or more digits than an integer holds.
`rest` is what follows the numeral. -/
def floatOf (negative : Bool) (whole : Nat) (beyond : Bytes) (fraction : Option Bytes)
    (exponent : Option (Bool × Bytes)) (rest : Bytes) : Except Refusal Number :=
  let digits := fraction.getD []
  let (acc, dropped) := accumulate whole digits
  let point : Int := (beyond.length : Int) - ((digits.length : Int) - (dropped.length : Int))
  let convert (e : Int) : Except Refusal Number :=
    match Binary64.ofDecimal? acc e with
    | some x => .ok (signed negative x)
    | none => .error ⟨.outOfRange, rest⟩
  match exponent with
  | none => convert point
  | some (down, exponentDigits) =>
    match exponentValue 0 exponentDigits with
    | .ok e => convert (if down then point - e else point + e)
    | .error unread =>
      if acc ≠ 0 ∧ !down then .error ⟨.outOfRange, unread ++ rest⟩
      else .ok (signed negative Binary64.zero)

/-- The number that a numeral's parts denote. `rest` is what follows the numeral. -/
def numberOf (negative : Bool) (whole : Bytes) (fraction : Option Bytes)
    (exponent : Option (Bool × Bytes)) (rest : Bytes) : Except Refusal Number :=
  let (acc, beyond) := accumulate 0 whole
  match beyond, fraction, exponent with
  | [], none, none =>
    if !negative then .ok (.int acc)
    else if 0 < acc ∧ acc ≤ 0x8000000000000000 then .ok (.int (-(acc : Int)))
    else .ok (signed true (Binary64.ofNat acc))
  | _, _, _ => floatOf negative acc beyond fraction exponent rest

/-- A number. -/
def readNumber : Reader Number := fun s => do
  let (negative, s) := match s with
    | b :: r => if b = byte '-' then (true, r) else (false, s)
    | [] => (false, s)
  let (whole, s) ← readWhole s
  let (fraction, s) ← readFraction s
  let (exponent, s) ← readExponent s
  let n ← numberOf negative whole fraction exponent s
  return (n, s)

end Deployer.Json
