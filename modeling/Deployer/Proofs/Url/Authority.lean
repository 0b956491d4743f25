import Deployer.Proofs.Url.Domain
import Deployer.Proofs.Url.Encoding
import Deployer.Proofs.Url.Parse

/-!
# The authority of a URL

The authority is what stands between the slashes after the scheme and the next slash, question mark or
number sign (`authorityOf`).

An authority that can be read does not end in spacing
(`Authority.not_isSpacing_of_getLast?`): it ends in a bracket, in a colon, in the digits of a port, or in
a domain. So it does not matter whether spacing behind an authority is cut off before the URL is read
(`authorityOf_append_of_isSpacing`).
-/

namespace Deployer.Url

open Domain (IsSpacing)

variable {c d : Char} {cs host port before after junk : List Char} {portText : Option (List Char)}
  {inside : Bool} {scheme : Scheme} {a : Authority} {h : Host}

/-! ### What an authority ends in -/

/-- A host does not end in spacing. -/
theorem Host.not_isSpacing_of_getLast? (hparse : Host.parse cs = .ok h)
    (hlast : cs.getLast? = some c) : ¬ IsSpacing c := by
  unfold Host.parse at hparse
  split at hparse
  next inner =>
    split at hparse
    next hbracket _ =>
      rw [List.getLast?_cons, hbracket] at hlast
      obtain rfl : ']' = c := Option.some.inj hlast
      decide
    next => cases hparse
  next =>
    split at hparse
    next => cases hparse
    next decoded hdecoded =>
      split at hparse
      next => cases hparse
      next name hname =>
        intro hspacing
        have hmem : c ∈ (String.ofList cs).toList := by
          rw [String.toList_ofList]
          exact List.mem_of_getLast? hlast
        have hkept := mem_of_percentDecodeText? hdecoded hmem hspacing.le_or_le
        exact Domain.not_isSpacing_of_toAscii? hname hkept hspacing

namespace Authority

/-- The text of a port is cut off with its colon. -/
private theorem append_of_cutPort (h : cutPort inside cs = (host, portText)) :
    cs = host ++ portText.elim [] (':' :: ·) := by
  induction cs generalizing inside host with
  | nil =>
    cases h
    rfl
  | cons c cs ih =>
    unfold cutPort at h
    split at h
    next hcolon =>
      cases h
      simp only [Bool.and_eq_true, beq_iff_eq] at hcolon
      rw [hcolon.1]
      rfl
    next =>
      cases h
      exact congrArg (c :: ·) (ih rfl)

/-- What is left of an authority without the user's name and password is its end. -/
private theorem suffix_of_cutLast
    (h : (Text.cutLast (· == '@') cs).getD ([], cs) = (before, after)) :
    after <:+ cs := by
  rcases Text.exists_last_sep (· == '@') cs with hnone | ⟨front, c, back, rfl, hc, hback⟩
  · have hcut : Text.cutLast (· == '@') cs = none := Text.cutLast_eq_none hnone
    rw [hcut] at h
    cases h
    exact List.suffix_rfl
  · have hcut : Text.cutLast (· == '@') (front ++ c :: back) = some (front, back) :=
      Text.cutLast_append hc hback
    rw [hcut] at h
    cases h
    exact ⟨before ++ [c], by simp⟩

/-- **What an authority ends in** is not spacing. -/
theorem not_isSpacing_of_getLast? (h : Authority.parse scheme cs = .ok a)
    (hlast : cs.getLast? = some c) : ¬ IsSpacing c := by
  unfold Authority.parse at h
  generalize hcut : (Text.cutLast (· == '@') cs).getD ([], cs) = parts at h
  obtain ⟨before, after⟩ := parts
  dsimp only at h
  generalize hport : cutPort false after = parts at h
  obtain ⟨hostText, portText⟩ := parts
  dsimp only at h
  split at h
  next => cases h
  next hne =>
    obtain ⟨host, hhost, h⟩ := bind_eq_ok.mp h
    obtain ⟨port, hdigits, -⟩ := bind_eq_ok.mp h
    have hafter := append_of_cutPort hport
    have hnil : after ≠ [] := fun hnil => hne (by simp_all)
    obtain ⟨front, rfl⟩ := suffix_of_cutLast hcut
    rw [List.getLast?_append_of_ne_nil _ hnil, hafter] at hlast
    cases portText with
    | none =>
      -- the host is all there is
      rw [Option.elim_none, List.append_nil] at hlast
      exact Host.not_isSpacing_of_getLast? hhost hlast
    | some text =>
      rw [Option.elim_some, List.getLast?_append_of_ne_nil _ (List.cons_ne_nil _ _)] at hlast
      -- the colon, or a digit
      rcases List.mem_cons.mp (List.mem_of_getLast? hlast) with rfl | hmem
      · decide
      · exact Domain.not_isSpacing_of_isDigit (isDigit_of_parsePort hdigits c hmem)

end Authority

/-! ### Where an authority ends -/

/-- Whether a character ends an authority. -/
def endsAuthority (c : Char) : Bool := Path.isSlash c || c == '?' || c == '#'

theorem Domain.IsSpacing.endsAuthority_eq_false (h : IsSpacing c) : endsAuthority c = false := by
  have hbounds := h.le_or_le
  cases hends : endsAuthority c with
  | false => rfl
  | true =>
    simp only [endsAuthority, Path.isSlash, Bool.or_eq_true, beq_iff_eq] at hends
    rcases hends with ((rfl | rfl) | rfl) | rfl <;> revert hbounds <;> decide

theorem authorityOf_eq (cs : List Char) :
    authorityOf cs = (cs.dropWhile Path.isSlash).takeWhile (!endsAuthority ·) := by
  rw [authorityOf, frontOf, cutTail]
  dsimp only
  rw [Text.cutFirst_fst, Text.cutFirst_fst, List.takeWhile_takeWhile, List.takeWhile_takeWhile]
  congr 1
  funext c
  simp only [endsAuthority, Bool.not_or, Bool.decide_and, Bool.decide_eq_true, Bool.and_assoc]

/-- An authority that has begun ends where it ends, whatever follows. -/
theorem authorityOf_append_cons (h : ∃ c ∈ cs, Path.isSlash c = false) (hd : endsAuthority d = true)
    (rest : List Char) : authorityOf (cs ++ d :: rest) = authorityOf cs := by
  obtain ⟨c, hc, hslash⟩ := h
  have hbegun : (cs.dropWhile Path.isSlash).isEmpty = false := by
    rw [List.isEmpty_eq_false_iff, ne_eq, List.dropWhile_eq_nil_iff]
    intro hall
    rw [hall c hc] at hslash
    cases hslash
  rw [authorityOf_eq, authorityOf_eq, List.dropWhile_append, hbegun, if_neg Bool.false_ne_true,
    List.takeWhile_append, List.takeWhile_cons_of_neg (by simp [hd]), List.append_nil]
  split
  next hlength => exact (List.takeWhile_prefix _).eq_of_length hlength |>.symm
  next => rfl

/-- What does not end an authority is not read, or read behind it. -/
theorem authorityOf_append (h : ∀ c ∈ junk, endsAuthority c = false) :
    authorityOf (cs ++ junk) = authorityOf cs ∨ authorityOf (cs ++ junk) = authorityOf cs ++ junk := by
  have hdrop : junk.dropWhile Path.isSlash = junk := by
    refine Text.dropWhile_eq_self_iff_head?.mpr fun c hc => ?_
    have hends := h c (List.mem_of_mem_head? hc)
    simp only [endsAuthority, Bool.or_eq_false_iff] at hends
    exact hends.1.1
  have htake : junk.takeWhile (!endsAuthority ·) = junk :=
    List.takeWhile_eq_self_iff.mpr fun c hc => by rw [h c hc]; rfl
  rw [authorityOf_eq, authorityOf_eq, List.dropWhile_append]
  split
  next hempty =>
    -- the authority begins with what is added
    right
    rw [List.isEmpty_iff.mp hempty, hdrop, htake]
    rfl
  next =>
    rw [List.takeWhile_append]
    split
    next hlength =>
      right
      rw [htake, (List.takeWhile_prefix _).eq_of_length hlength]
    next => exact .inl rfl

/-- A text that holds nothing that ends an authority is only an authority. -/
theorem ofPieces_of_endsAuthority_eq_false (scheme : Scheme) (a : Authority)
    (h : ∀ c ∈ cs, endsAuthority c = false) : authorityOf cs = cs ∧ ofPieces scheme a cs =
      ⟨scheme, a.username, a.password, a.host, a.port, [""], none, none⟩ := by
  have hslash (c : Char) (hc : c ∈ cs) : Path.isSlash c = false := by
    have hends := h c hc
    simp only [endsAuthority, Bool.or_eq_false_iff] at hends
    exact hends.1.1
  have hkept (c : Char) (hc : c ∈ cs) : (!Path.isSlash c) = true := by
    rw [hslash c hc]
    rfl
  have hdrop : cs.dropWhile Path.isSlash = cs :=
    Text.dropWhile_eq_self_iff_head?.mpr fun c hc => hslash c (List.mem_of_mem_head? hc)
  have htail : cutTail cs = (cs, none, none) := by
    have hnone (sign : Char) (hsign : endsAuthority sign = true) :
        Text.cutFirst (· == sign) cs = (cs, none) :=
      Text.cutFirst_eq_none fun c hc => beq_false_of_ne fun heq => by
        cases (heq ▸ h c hc).symm.trans hsign
    rw [cutTail, hnone '#' rfl]
    dsimp only
    rw [hnone '?' rfl]
  have hpath : pathOf cs = [] := by
    rw [pathOf, frontOf, hdrop, htail]
    exact List.dropWhile_eq_nil_iff.mpr hkept
  refine ⟨?_, ?_⟩
  · rw [authorityOf, frontOf, hdrop, htail]
    exact List.takeWhile_eq_self_iff.mpr hkept
  · rw [ofPieces, hpath, queryOf, fragmentOf, hdrop, htail]
    rfl

/-- **Spacing behind an authority** is not part of it. -/
theorem authorityOf_append_of_isSpacing (hjunk : ∀ c ∈ junk, IsSpacing c)
    (h : Authority.parse scheme (authorityOf (cs ++ junk)) = .ok a) :
    authorityOf (cs ++ junk) = authorityOf cs := by
  rcases authorityOf_append (fun c hc => (hjunk c hc).endsAuthority_eq_false) with heq | heq
  · exact heq
  · rcases List.eq_nil_or_concat junk with rfl | ⟨front, c, rfl⟩
    · rw [List.append_nil]
    · rw [heq] at h
      exact absurd (hjunk c (by simp)) (Authority.not_isSpacing_of_getLast? h (by simp))

/-! ### URLs under `http` -/

/-- The authority of a URL. -/
def authority (url : Url) : Authority := ⟨url.username, url.password, url.host, url.port⟩

/-- What is left of the end of a URL when the URL is read. -/
def strippedEnd (cs : List Char) : List Char :=
  (cs.rdropWhile (·.toNat ≤ 0x20)).filter (!Path.isDropped ·)

private theorem isDropped_eq_false (h : 0x20 < c.toNat) : Path.isDropped c = false := by
  rw [Path.isDropped, Bool.or_eq_false_iff, Bool.or_eq_false_iff]
  refine ⟨⟨beq_false_of_ne ?_, beq_false_of_ne ?_⟩, beq_false_of_ne ?_⟩ <;>
  · rintro rfl
    exact absurd h (by decide)

/-- Visible characters are not removed. -/
theorem filter_isDropped_eq_self (h : ∀ c ∈ cs, 0x20 < c.toNat) :
    cs.filter (!Path.isDropped ·) = cs :=
  List.filter_eq_self.mpr fun c hc => by rw [isDropped_eq_false (h c hc)]; rfl

theorem strippedEnd_eq_self (h : ∀ c ∈ cs, 0x20 < c.toNat) : strippedEnd cs = cs := by
  have hend : cs.rdropWhile (·.toNat ≤ 0x20) = cs :=
    Text.rdropWhile_eq_self_iff_getLast?.mpr fun c hc =>
      decide_eq_false (Nat.not_le_of_lt (h c (List.mem_of_getLast? hc)))
  rw [strippedEnd, hend, filter_isDropped_eq_self h]

theorem stripped_http (cs : List Char) :
    stripped ("http://".toList ++ cs) = "http://".toList ++ strippedEnd cs := by
  have htrimmed : trimmed ("http://".toList ++ cs) =
      "http:/".toList ++ '/' :: cs.rdropWhile (·.toNat ≤ 0x20) :=
    Text.rdropWhile_append_cons (by decide) "http:/".toList cs
  rw [stripped, htrimmed, List.filter_append, List.filter_cons_of_pos (by decide)]
  rfl

private theorem cutScheme_http (cs : List Char) :
    cutScheme ("http://".toList ++ cs) = some ("http".toList, '/' :: '/' :: cs) := by
  have hcut : Text.cutFirst (· == ':') ("http://".toList ++ cs) =
      ("http".toList, some ('/' :: '/' :: cs)) := rfl
  rw [cutScheme, hcut]
  rfl

/-- **What a URL under `http` is parsed from.** The slashes after the scheme are skipped. -/
theorem parse_http_eq_ok_iff {url : Url} : Url.parse ("http://".toList ++ cs) = .ok url ↔
    ∃ a, Authority.parse .http (authorityOf (strippedEnd cs)) = .ok a ∧
      url = ofPieces .http a (strippedEnd cs) := by
  rw [parse_eq_ok_iff, stripped_http, cutScheme_http]
  constructor
  · rintro ⟨name, rest, scheme, a, hcut, hname, ha, rfl⟩
    cases hcut
    cases hname
    exact ⟨a, ha, rfl⟩
  · rintro ⟨a, ha, rfl⟩
    exact ⟨_, _, .http, a, rfl, rfl, ha, rfl⟩

end Deployer.Url
