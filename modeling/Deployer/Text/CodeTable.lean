import Deployer.Text.Pieces

/-!
# Tables of code points

Facts about characters come as tables of ranges of code points, in increasing order. A table is written
in lines of hexadecimal numbers: `300-36F` is a range and `AD` a range of one code point, and numbers
that belong to a range follow it, as in `132=69+6A`. A table without such numbers is a set.
-/

namespace Deployer.Text

/-- A range of code points, both ends included, and numbers that belong to it. -/
structure CodeRow where
  first : Nat
  last : Nat
  values : List Nat
deriving DecidableEq, Repr

/-- Ranges of code points in increasing order. -/
abbrev CodeTable := List CodeRow

namespace CodeRow

/-- The number that hexadecimal digits in capitals spell. -/
def hexNumber (digits : List Char) : Nat :=
  digits.foldl (fun n c => 16 * n + (if c.isDigit then c.toNat - 0x30 else c.toNat - 0x37)) 0

/-- The row that a word spells. -/
def ofWord (word : List Char) : CodeRow :=
  let (range, values) := cutFirst (· == '=') word
  let (first, last) := cutFirst (· == '-') range
  let codes := (pieces (· == '+') (values.getD [])).filter (!·.isEmpty)
  ⟨hexNumber first, hexNumber (last.getD first), codes.map hexNumber⟩

end CodeRow

namespace CodeTable

/-- The table that lines of words spell. -/
def ofLines (lines : List String) : CodeTable :=
  lines.flatMap fun line => (pieces (· == ' ') line.toList).map CodeRow.ofWord

/-- The row of a character. -/
def row? (table : CodeTable) (c : Char) : Option CodeRow :=
  (table.find? (c.toNat ≤ ·.last)).filter (·.first ≤ c.toNat)

/-- Whether a table has a row for a character. -/
def contains (table : CodeTable) (c : Char) : Bool := (table.row? c).isSome

/-- The numbers that belong to a character. -/
def values? (table : CodeTable) (c : Char) : Option (List Nat) := (table.row? c).map (·.values)

end CodeTable

end Deployer.Text
