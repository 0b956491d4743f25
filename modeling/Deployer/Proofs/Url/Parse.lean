import Deployer.Url.Parse
import Deployer.Proofs.Result

/-!
# What a URL is parsed from

A text that is parsed as a URL is cut first: into the name of the scheme, the authority, the path, the
query and the fragment. `Url.parse_eq_ok_iff` says that the parts of the URL are read off these pieces, one
by one; a proof about one part need not look at the others. Behind the scheme only the authority can be
refused: there is no text that cannot be a path, a query or a fragment.

A port that is read is a number, or empty (`isDigit_of_parse`). Which text it is read from does not depend
on the rest of the URL, so it has a definition of its own (`portText?`).
-/

namespace Deployer.Url

variable {scheme : Scheme} {rest port : List Char} {a : Authority}

/-! ### The pieces -/

/-- The text before the query, less the slashes in front of the authority. -/
def frontOf (rest : List Char) : List Char := (cutTail (rest.dropWhile Path.isSlash)).1

/-- The authority in the text after a scheme's colon. -/
def authorityOf (rest : List Char) : List Char := (frontOf rest).takeWhile (!Path.isSlash ·)

/-- The path in the text after a scheme's colon. -/
def pathOf (rest : List Char) : List Char := (frontOf rest).dropWhile (!Path.isSlash ·)

/-- The query in the text after a scheme's colon. -/
def queryOf (rest : List Char) : Option (List Char) := (cutTail (rest.dropWhile Path.isSlash)).2.1

/-- The fragment in the text after a scheme's colon. -/
def fragmentOf (rest : List Char) : Option (List Char) := (cutTail (rest.dropWhile Path.isSlash)).2.2

/-- The URL of a scheme, an authority that has been read and the pieces that follow it. -/
def ofPieces (scheme : Scheme) (a : Authority) (rest : List Char) : Url :=
  ⟨scheme, a.username, a.password, a.host, a.port, Path.parse (pathOf rest),
    encodedPart .query (queryOf rest), encodedPart .fragment (fragmentOf rest)⟩

theorem parseAfter_eq (scheme : Scheme) (rest : List Char) :
    parseAfter scheme rest =
      Authority.parse scheme (authorityOf rest) >>= fun a => .ok (ofPieces scheme a rest) := rfl

/-- **What a URL is parsed from.** -/
theorem parse_eq_ok_iff {full : List Char} {url : Url} : Url.parse full = .ok url ↔
    ∃ name rest scheme a, cutScheme (stripped full) = some (name, rest) ∧
      Scheme.ofName? name = some scheme ∧ Authority.parse scheme (authorityOf rest) = .ok a ∧
      url = ofPieces scheme a rest := by
  constructor
  · intro h
    unfold Url.parse at h
    split at h
    next => cases h
    next name rest hscheme =>
      split at h
      next => cases h
      next scheme hname =>
        rw [parseAfter_eq] at h
        obtain ⟨a, ha, heq⟩ := bind_eq_ok.mp h
        cases heq
        exact ⟨name, rest, scheme, a, hscheme, hname, ha, rfl⟩
  · rintro ⟨name, rest, scheme, a, hscheme, hname, ha, rfl⟩
    simp only [Url.parse, hscheme, hname, parseAfter_eq, ha]
    rfl

/-! ### Ports -/

/-- The text of the port in an authority: what follows the first colon that is neither in brackets nor
in the user's name and password. -/
def Authority.portText? (cs : List Char) : Option (List Char) :=
  (cutPort false ((Text.cutLast (· == '@') cs).getD ([], cs)).2).2

/-- A port that is read is a number, or empty. -/
theorem Authority.isDigit_of_parsePort {own p : Option UInt16} (h : parsePort own port = .ok p) :
    ∀ c ∈ port, c.isDigit = true := by
  intro c hc
  unfold parsePort at h
  split at h
  next hempty =>
    rw [List.isEmpty_iff.mp hempty] at hc
    cases hc
  next =>
    split at h
    next => cases h
    next hall =>
      simp only [Bool.not_eq_true', Bool.not_eq_false, List.all_eq_true] at hall
      exact hall c hc

theorem Authority.parsePort_of_parse {cs : List Char} (h : Authority.parse scheme cs = .ok a) :
    parsePort (some scheme.defaultPort) ((portText? cs).getD []) = .ok a.port := by
  unfold Authority.parse at h
  unfold portText?
  -- how the authority is cut does not matter, only that it is cut once
  generalize (Text.cutLast (· == '@') cs).getD ([], cs) = parts at h ⊢
  obtain ⟨before, after⟩ := parts
  dsimp only at h ⊢
  generalize cutPort false after = parts at h ⊢
  obtain ⟨host, portText⟩ := parts
  dsimp only at h ⊢
  split at h
  next => cases h
  next =>
    obtain ⟨host, -, h⟩ := bind_eq_ok.mp h
    obtain ⟨port, hport, h⟩ := bind_eq_ok.mp h
    cases h
    exact hport

/-- The text of the port in a URL. -/
def portText? (full : List Char) : Option (List Char) :=
  (cutScheme (stripped full)).bind fun cut => Authority.portText? (authorityOf cut.2)

/-- **The port of a URL** that is accepted is a number, or empty. -/
theorem isDigit_of_parse {full : List Char} {url : Url} (h : Url.parse full = .ok url)
    (hport : portText? full = some port) : ∀ c ∈ port, c.isDigit = true := by
  obtain ⟨name, rest, scheme, a, hscheme, -, hauthority, -⟩ := parse_eq_ok_iff.mp h
  rw [portText?, hscheme, Option.bind_some] at hport
  have hparse := Authority.parsePort_of_parse hauthority
  rw [hport, Option.getD_some] at hparse
  exact Authority.isDigit_of_parsePort hparse

end Deployer.Url
