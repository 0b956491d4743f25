import Deployer.Text.Direction
import Deployer.Text.Joining
import Deployer.Url.DomainMapping
import Deployer.Url.Punycode

/-!
# Domain names

`Domain.toAscii?` writes a domain in ASCII. The mapped domain is cut into labels at the dots. A label
that carries the marker `xn--` is the Punycode form of another one, which it stands for. Labels beyond
ASCII must be valid: they stand for themselves under the mapping, do not begin with a mark, are not too
long, and have joiners only where they join something. If some label is written from right to left,
no label may mix the two directions. Then the labels beyond ASCII are written in Punycode again.

A label is read back from its form before it is written, and a form must be the one that its label
has; so a label and its form stand for each other.
-/

namespace Deployer.Url.Domain

open Text

/-- The marker of labels in Punycode form. -/
def marker : List Char := ['x', 'n', '-', '-']

/-- The most characters of a label beyond ASCII. -/
def maxLabelLength : Nat := 1000

/-- The most characters of a Punycode form that is read. -/
def maxFormLength : Nat := 2000

/-- The printable characters that a domain in ASCII must not hold. -/
def delimiters : List Char := ['%', '#', '/', ':', '<', '>', '?', '@', '[', '\\', ']', '^', '|']

/-- The characters that a domain in ASCII may hold. -/
def isHostChar (c : Char) : Bool :=
  0x20 < c.toNat && c.toNat < 0x7F && !c.isUpper && !delimiters.contains c

/-! ### Joiners -/

/-- The character that keeps its neighbours from being joined. -/
def nonJoiner : Char := '\u200c'

/-- The character that has its neighbours joined. -/
def joiner : Char := '\u200d'

/-- Whether the first character that parts its neighbours is joined in one of the given ways. -/
def joinsAs (ways : List Joining) (cs : List Char) : Bool :=
  (cs.find? (Joining.ofChar · != .transparent)).any fun c => ways.contains (Joining.ofChar c)

/-- Whether either of the two joiners may stand between the characters before it, the nearest first,
and those after it: after a virama, or, if it keeps letters apart, between letters that join. -/
def isBound (before : List Char) (c : Char) (after : List Char) : Bool :=
  match before with
  | [] => false
  | b :: _ =>
    isVirama b || c == nonJoiner && joinsAs [.left, .dual] before && joinsAs [.right, .dual] after

/-- Whether all joiners of a label may stand where they are, given the characters before it. -/
def areJoinersBound (before : List Char) : List Char → Bool
  | [] => true
  | c :: cs =>
    (c != nonJoiner && c != joiner || isBound before c cs) && areJoinersBound (c :: before) cs

/-! ### Writing directions -/

/-- Whether a character is written from right to left; none before the Hebrew letters is. -/
def isRightToLeft (c : Char) : Bool :=
  0x590 ≤ c.toNat && [.right, .arabicLetter, .arabicNumber].contains (Direction.ofChar c)

/-- The directions that may occur in any label. -/
def sharedDirections : List Direction :=
  [.europeanNumber, .numberSign, .numberDivider, .numberUnit, .neutral, .boundary, .mark]

/-- Whether a label keeps to one direction: it begins with a letter, holds nothing of the other
direction, and ends, marks apart, in a letter or a digit; digits of two kinds do not mix. -/
def hasOneDirection (label : List Char) : Bool :=
  match label.map Direction.ofChar with
  | [] => true
  | first :: rest =>
    let body := (rest.reverse.dropWhile (· == .mark)).reverse
    let keepsTo (letters ends : List Direction) : Bool :=
      body.all ((letters ++ sharedDirections).contains ·) && body.getLast?.all (ends.contains ·)
    match first with
    | .left => keepsTo [.left] [.left, .europeanNumber]
    | .right | .arabicLetter =>
      keepsTo [.right, .arabicLetter, .arabicNumber]
          [.right, .arabicLetter, .europeanNumber, .arabicNumber] &&
        !(body.contains .europeanNumber && body.contains .arabicNumber)
    | _ => false

/-- Whether labels can stand in one domain. -/
def areOrdered (labels : List (List Char)) : Bool :=
  !labels.any (·.any isRightToLeft) || labels.all hasOneDirection

/-! ### Labels -/

/-- Whether a label can be part of a domain. -/
def isValid (label : List Char) : Bool :=
  mapped label == some label &&
    (label.all Punycode.isAscii ||
      label.length ≤ maxLabelLength && !(label.take 1).any isMark && areJoinersBound [] label)

/-- The label beyond ASCII that has a Punycode form. -/
def ofForm? (form : List Char) : Option (List Char) :=
  if maxFormLength < form.length then none
  else
    (Punycode.decode? form).filter fun label =>
      label.any (!Punycode.isAscii ·) && isValid label && Punycode.encode label == form

/-- The label that a label of a mapped domain stands for. -/
def plainLabel? (label : List Char) : Option (List Char) :=
  if marker.isPrefixOf label then ofForm? (label.drop marker.length)
  else if isValid label then some label
  else none

/-- A label in ASCII. -/
def writeLabel (label : List Char) : List Char :=
  if label.all Punycode.isAscii then label else marker ++ Punycode.encode label

/-- The ASCII form of a domain. -/
def toAscii? (domain : List Char) : Option (List Char) := do
  let labels ← (pieces (· == '.') (← mapped domain)).mapM plainLabel?
  let written := joined ['.'] (labels.map writeLabel)
  if areOrdered labels && written.all isHostChar then some written else none

end Deployer.Url.Domain
