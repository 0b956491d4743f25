/-!
# Cutting texts

`pieces` cuts a list of characters at every separator, so it gives at least one piece, and `joined` puts
pieces together again. `cutFirst` and `cutLast` cut at one separator only.
-/

namespace Deployer.Text

/-- The pieces between the characters that satisfy `sep`. -/
def pieces (sep : Char → Bool) : List Char → List (List Char)
  | [] => [[]]
  | c :: cs =>
    if sep c then [] :: pieces sep cs
    else
      match pieces sep cs with
      | [] => [[c]]
      | p :: ps => (c :: p) :: ps

/-- Pieces with a separator between each two. -/
def joined (sep : List Char) : List (List Char) → List Char
  | [] => []
  | [p] => p
  | p :: q :: ps => p ++ sep ++ joined sep (q :: ps)

/-- What stands before and after the first character that satisfies `sep`. -/
def cutFirst (sep : Char → Bool) (cs : List Char) : List Char × Option (List Char) :=
  match cs.dropWhile (!sep ·) with
  | [] => (cs, none)
  | _ :: after => (cs.takeWhile (!sep ·), some after)

/-- What stands before and after the last character that satisfies `sep`. -/
def cutLast (sep : Char → Bool) (cs : List Char) : Option (List Char × List Char) :=
  match cutFirst sep cs.reverse with
  | (_, none) => none
  | (after, some before) => some (before.reverse, after.reverse)

/-- What stands before and after the first occurrence of a word. -/
def cutWord (word : List Char) : List Char → Option (List Char × List Char)
  | [] => if word.isEmpty then some ([], []) else none
  | c :: cs =>
    if word.isPrefixOf (c :: cs) then some ([], (c :: cs).drop word.length)
    else (cutWord word cs).map fun (before, after) => (c :: before, after)

end Deployer.Text
