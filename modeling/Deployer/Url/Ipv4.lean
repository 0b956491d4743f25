import Deployer.Text.Pieces

/-!
# IPv4 addresses in host position

A host whose last label is a number must be an IPv4 address. It has one to four parts, each decimal,
octal (after a zero) or hexadecimal (after `0x`); all but the last fill one byte, and the last fills
what remains. The written form has four decimal parts.
-/

namespace Deployer.Url.Ipv4

/-- The value of a digit in a base of at most sixteen. -/
def digit? (base : Nat) (c : Char) : Option Nat :=
  let n := c.toNat
  let value :=
    if 0x30 ≤ n ∧ n ≤ 0x39 then n - 0x30
    else if 0x41 ≤ n ∧ n ≤ 0x46 then n - 0x41 + 10
    else if 0x61 ≤ n ∧ n ≤ 0x66 then n - 0x61 + 10
    else 16
  if value < base then some value else none

/-- The value of a list of digits. -/
def digits? (base : Nat) (cs : List Char) : Option Nat :=
  cs.foldlM (fun acc c => (digit? base c).map (acc * base + ·)) 0

/-- The value of one part. A lone `0x` is zero. -/
def part? : List Char → Option Nat
  | [] => none
  | '0' :: 'x' :: cs => digits? 16 cs
  | '0' :: 'X' :: cs => digits? 16 cs
  | '0' :: c :: cs => digits? 8 (c :: cs)
  | cs => digits? 10 cs

/-- The parts of a host, without the empty one after a final dot. -/
def partsOf (cs : List Char) : List (List Char) :=
  let parts := Text.pieces (· == '.') cs
  match parts.getLast? with
  | some [] => parts.dropLast
  | _ => parts

/-- Whether the last label of a host is a number, so that the host must be an address. -/
def endsInNumber (cs : List Char) : Bool :=
  match (partsOf cs).getLast? with
  | none => false
  | some last => (!last.isEmpty && last.all Char.isDigit) || (part? last).isSome

/-- The address of a list of part values: all but the last fill a byte each. -/
def combine? (count : Nat) : List Nat → Option Nat
  | [] => none
  | [last] => if last < Nat.pow 256 (4 - count) then some last else none
  | n :: ns =>
    if n < 256 then (combine? (count + 1) ns).map (n * Nat.pow 256 (3 - count) + ·) else none

/-- The address that a host spells. -/
def parse? (cs : List Char) : Option UInt32 :=
  let parts := partsOf cs
  if 4 < parts.length then none
  else
    match parts.mapM part? with
    | none => none
    | some numbers => (combine? 0 numbers).map Nat.toUInt32

/-- The four bytes of an address. -/
def octets (address : UInt32) : List Nat :=
  let n := address.toNat
  [n / 16777216 % 256, n / 65536 % 256, n / 256 % 256, n % 256]

/-- The written form of an address. -/
def write (address : UInt32) : List Char :=
  Text.joined ['.'] ((octets address).map (Nat.toDigits 10))

end Deployer.Url.Ipv4
