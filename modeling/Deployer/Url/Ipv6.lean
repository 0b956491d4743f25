import Deployer.Url.Ipv4

/-!
# IPv6 addresses

An address has eight pieces of sixteen bits, written in hexadecimal between colons. `::` stands once
for one or more zero pieces, and the last two pieces may be written as a dotted IPv4 address. The
written form replaces the first longest run of two or more zero pieces by `::`.
-/

namespace Deployer.Url.Ipv6

/-- A piece of one to four hexadecimal digits. -/
def piece? (cs : List Char) : Option UInt16 :=
  if cs.isEmpty || 4 < cs.length then none else (Ipv4.digits? 16 cs).map Nat.toUInt16

/-- A decimal byte without leading zeros. -/
def octet? (cs : List Char) : Option Nat :=
  match cs with
  | [] => none
  | ['0'] => some 0
  | '0' :: _ => none
  | cs =>
    match Ipv4.digits? 10 cs with
    | some n => if n < 256 then some n else none
    | none => none

/-- The two pieces of a dotted address. -/
def dotted? (cs : List Char) : Option (List UInt16) :=
  match (Text.pieces (· == '.') cs).mapM octet? with
  | some [a, b, c, d] => some [(a * 256 + b).toUInt16, (c * 256 + d).toUInt16]
  | _ => none

/-- The pieces of groups, the last of which may be dotted if `tail` holds. -/
def groups? (tail : Bool) : List (List Char) → Option (List UInt16)
  | [] => some []
  | [g] => if tail && g.contains '.' then dotted? g else (piece? g).map ([·])
  | g :: gs => do return (← piece? g) :: (← groups? tail gs)

/-- The pieces between colons; the empty text has none. -/
def pieces? (tail : Bool) (cs : List Char) : Option (List UInt16) :=
  if cs.isEmpty then some [] else groups? tail (Text.pieces (· == ':') cs)

/-- The eight pieces of an address. -/
def parse? (cs : List Char) : Option (List UInt16) :=
  match Text.cutWord [':', ':'] cs with
  | none => do
    let all ← pieces? true cs
    if all.length = 8 then some all else none
  | some (left, right) => do
    let left ← pieces? false left
    let right ← pieces? true right
    let count := left.length + right.length
    if count ≤ 7 then some (left ++ List.replicate (8 - count) 0 ++ right) else none

/-- The length of the run of zero pieces in front. -/
def zeros (pieces : List UInt16) : Nat := (pieces.takeWhile (· == 0)).length

/-- The first longest run of zero pieces: where it begins, counted from `start`, and how long it is. -/
def longestRun (start : Nat) : List UInt16 → Nat × Nat
  | [] => (start, 0)
  | p :: ps =>
    let here := zeros (p :: ps)
    let later := longestRun (start + 1) ps
    if later.2 ≤ here then (start, here) else later

/-- Pieces between colons. -/
def writePieces (pieces : List UInt16) : List Char :=
  Text.joined [':'] (pieces.map fun p => Nat.toDigits 16 p.toNat)

/-- The written form of an address. -/
def write (pieces : List UInt16) : List Char :=
  let (start, length) := longestRun 0 pieces
  if length < 2 then writePieces pieces
  else writePieces (pieces.take start) ++ [':', ':'] ++ writePieces (pieces.drop (start + length))

end Deployer.Url.Ipv6
