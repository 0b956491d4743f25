import Deployer.Url.Rooted

/-!
# URLs of any scheme

A `Reference` is a URL with a host, a URL that needs none but has a path made of segments, or a URL of
which only the scheme is known. Nothing can be appended to the last.
-/

namespace Deployer.Url

/-- A URL of any scheme. -/
inductive Reference where
  | hosted (url : Url)
  | rooted (url : Rooted)
  | unrooted (text : String)

namespace Reference

/-- The text of a URL whose scheme says nothing about what follows. -/
def unrootedText (scheme rest : List Char) : String :=
  let (front, query, fragment) := cutTail rest
  String.ofList (scheme ++ ':' :: percentEncode .control front ++
    writeAfter '?' (encodedPart .plainQuery query) ++
    writeAfter '#' (encodedPart .fragment fragment))

/-- The URL that a text spells. -/
def parse (cs : List Char) : Except Fault Reference :=
  match cutScheme (stripped cs) with
  | none => .error .noScheme
  | some (name, rest) =>
    match Scheme.ofName? name with
    | some scheme => (parseAfter scheme rest).map hosted
    | none =>
      if name = "file".toList then
        let (_, rest) := Text.cutFirst (· == ':') (trimmed cs)
        (Rooted.parseFile (rest.getD [])).map rooted
      else (Rooted.parsePlain? name rest).map fun
        | some url => rooted url
        | none => unrooted (unrootedText name rest)

/-- The text of a URL. -/
def text : Reference → String
  | hosted url => url.text
  | rooted url => url.text
  | unrooted text => text

end Reference

end Deployer.Url
