import Deployer.Proofs.Address.Agreement
import Deployer.Proofs.Url.Authority

/-!
# The authority that is checked

An address without a scheme is checked up to its first slash, question mark or number sign; this part
must name the host. The URL is then read from the whole address under `http`, and there slashes and
backslashes may stand before the authority, and tabs and line ends anywhere.

* `normalize_authority`: if the part that is checked holds any other character, then it is an address
  too, and its URL has the host, the port, the user name and the password of the URL of the whole
  address. Otherwise it is no address at all.
* `normalize_passes_check`: in the second case the check says nothing about the host, which is read from
  behind the part. So a mangled scheme gets by with a slash in front.
-/

namespace Deployer.Address

open Url

variable {cs part : List Char} {c : Char} {t : String} {url : Url} {a : Authority}

/-! ### Roots and their authorities -/

/-- What stands before the path of a plain address is read as its authority. -/
private theorem authority_of_root? (h : root? ("http://".toList ++ cs) = some url) :
    Authority.parse .http (authorityOf (strippedEnd cs)) = .ok url.authority := by
  obtain ⟨hparse, -⟩ := root?_eq_some_iff.mp h
  obtain ⟨a, ha, rfl⟩ := parse_http_eq_ok_iff.mp hparse
  exact ha

/-- A text that can have neither a query nor a fragment is a root if its authority can be read. -/
theorem exists_root?_eq_some (ha : Authority.parse .http (authorityOf (strippedEnd cs)) = .ok a)
    (hhost : a.host.text.isEmpty = false) (htail : ∀ c ∈ cs, c ≠ '?' ∧ c ≠ '#') :
    ∃ base, root? ("http://".toList ++ cs) = some base ∧ base.authority = a := by
  have hkept : ∀ c ∈ (strippedEnd cs).dropWhile Path.isSlash, c ≠ '?' ∧ c ≠ '#' := by
    intro c hc
    have hc := List.mem_of_mem_filter ((List.dropWhile_sublist _).subset hc)
    exact htail c ((List.rdropWhile_prefix _ _).subset hc)
  have hcut : cutTail ((strippedEnd cs).dropWhile Path.isSlash) =
      ((strippedEnd cs).dropWhile Path.isSlash, none, none) := by
    rw [cutTail, Text.cutFirst_eq_none fun c hc => beq_false_of_ne (hkept c hc).2]
    dsimp only
    rw [Text.cutFirst_eq_none fun c hc => beq_false_of_ne (hkept c hc).1]
  refine ⟨ofPieces .http a (strippedEnd cs), root?_eq_some_iff.mpr ⟨?_, hhost, ?_, ?_⟩, rfl⟩
  · exact parse_http_eq_ok_iff.mpr ⟨a, ha, rfl⟩
  · rw [ofPieces, queryOf, hcut]
    rfl
  · rw [ofPieces, fragmentOf, hcut]
    rfl

/-- An address without a scheme that is accepted has passed the check, and is read under `http`. -/
theorem root?_of_normalize (htrim : Text.trimChars t.toList = t.toList)
    (hmark : ¬ schemeMark <:+: t.toList) (h : normalize t = .ok url) :
    HostPort (authorityPart t.toList) ∧ root? ("http://".toList ++ t.toList) = some url := by
  have hcheck : HostPort (authorityPart t.toList) := by
    by_contra hcheck
    obtain ⟨port, herror⟩ := exists_normalize_eq_error htrim hmark hcheck
    cases herror.symm.trans h
  refine ⟨hcheck, ?_⟩
  rw [← toOption_normalize_plain htrim hmark hcheck, h, toOption_ok]

/-! ### The part that is checked -/

/-- The characters that are skipped on the way to an authority. -/
def isSkipped (c : Char) : Bool := Path.isSlash c || Path.isDropped c

/-- No character that ends an authority is in it. -/
private theorem of_mem_authorityPart (h : c ∈ authorityPart cs) : c ≠ '/' ∧ c ≠ '?' ∧ c ≠ '#' := by
  have hc := List.mem_takeWhile_imp h
  simp only [Bool.and_eq_true, bne_iff_ne, ne_eq, and_assoc] at hc
  exact hc

/-- The part is the whole address, or something ends it. -/
theorem authorityPart_cases (cs : List Char) : authorityPart cs = cs ∨
    ∃ c rest, cs = authorityPart cs ++ c :: rest ∧ (c = '/' ∨ c = '?' ∨ c = '#') := by
  induction cs with
  | nil => exact .inl rfl
  | cons d cs ih =>
    by_cases hd : (d != '/' && d != '?' && d != '#') = true
    · have hcons : authorityPart (d :: cs) = d :: authorityPart cs := List.takeWhile_cons_of_pos hd
      rw [hcons]
      rcases ih with hwhole | ⟨c, rest, hsplit, hc⟩
      · exact .inl (congrArg (d :: ·) hwhole)
      · exact .inr ⟨c, rest, congrArg (d :: ·) hsplit, hc⟩
    · have hnil : authorityPart (d :: cs) = [] := List.takeWhile_cons_of_neg hd
      rw [hnil]
      refine .inr ⟨d, cs, rfl, ?_⟩
      by_contra hother
      simp only [not_or] at hother
      exact hd (by simp [hother])

/-- What begins the part begins the address. -/
private theorem head?_of_authorityPart (h : (authorityPart cs).head? = some c) :
    cs.head? = some c := by
  rcases authorityPart_cases cs with hwhole | ⟨d, rest, hsplit, -⟩
  · rwa [hwhole] at h
  · rw [hsplit, List.head?_append, h]
    rfl

/-- What passes the check also passes it without the blanks behind it. -/
theorem HostPort.rdropWhile (h : HostPort part) : HostPort (part.rdropWhile Text.isBlank) := by
  cases h with
  | bracket h =>
    rw [Text.rdropWhile_eq_self_iff_getLast?.mpr]
    · exact .bracket h
    · intro c hc
      obtain rfl : ']' = c := Option.some.inj (h.symm.trans hc)
      decide
  | plain h => exact .plain fun hmem => h ((List.rdropWhile_prefix _ _).subset hmem)
  | @port host port hne hdigits =>
    rw [Text.rdropWhile_eq_self_iff_getLast?.mpr]
    · exact .port hne hdigits
    · intro c hc
      rw [List.getLast?_append_of_ne_nil _ (List.cons_ne_nil _ _)] at hc
      rcases List.mem_cons.mp (List.mem_of_getLast? hc) with rfl | hmem
      · decide
      · have hspacing := Domain.not_isSpacing_of_isDigit (hdigits c hmem)
        exact Bool.eq_false_iff.mpr fun hblank => hspacing (.inl hblank)

/-- The part that is checked, taken for an address of its own. -/
theorem toOption_normalize_part (hpart : ∀ c ∈ part, c ≠ '/' ∧ c ≠ '?' ∧ c ≠ '#')
    (hhead : ∀ c, part.head? = some c → Text.isBlank c = false) (hcheck : HostPort part) :
    (normalize (String.ofList part)).toOption =
      root? ("http://".toList ++ part.rdropWhile Text.isBlank) := by
  have hdrop := Text.dropWhile_eq_self_iff_head?.mpr hhead
  have htrim : Text.trimChars (String.ofList part).toList = part.rdropWhile Text.isBlank := by
    rw [String.toList_ofList, Text.trimChars, hdrop]
    rfl
  have hkept : ∀ c ∈ part.rdropWhile Text.isBlank, c ≠ '/' ∧ c ≠ '?' ∧ c ≠ '#' :=
    fun c hc => hpart c ((List.rdropWhile_prefix _ _).subset hc)
  have hmark : ¬ schemeMark <:+: part.rdropWhile Text.isBlank := fun hword =>
    (hkept '/' (hword.subset (by decide))).1 rfl
  have hwhole : authorityPart (part.rdropWhile Text.isBlank) = part.rdropWhile Text.isBlank := by
    refine List.takeWhile_eq_self_iff.mpr fun c hc => ?_
    simpa [and_assoc] using hkept c hc
  rw [← htrim] at hmark hwhole ⊢
  refine toOption_normalize_trimChars hmark ?_
  rw [hwhole, htrim]
  exact hcheck.rdropWhile

/-! ### The whole address and the part -/

/-- An authority that begins in the part ends with it. -/
private theorem authorityOf_strippedEnd (hpart : ∃ c ∈ part, isSkipped c = false)
    (hc : c = '/' ∨ c = '?' ∨ c = '#') (rest : List Char) :
    authorityOf (strippedEnd (part ++ c :: rest)) =
      authorityOf (part.filter (!Path.isDropped ·)) := by
  have hends : endsAuthority c = true ∧ decide (c.toNat ≤ 0x20) = false ∧
      (!Path.isDropped c) = true := by
    rcases hc with rfl | rfl | rfl <;> decide
  have hbegun : ∃ d ∈ part.filter (!Path.isDropped ·), Path.isSlash d = false := by
    obtain ⟨d, hd, hskipped⟩ := hpart
    obtain ⟨hslash, hdropped⟩ := Bool.or_eq_false_iff.mp hskipped
    exact ⟨d, List.mem_filter.mpr ⟨hd, by rw [hdropped]; rfl⟩, hslash⟩
  rw [strippedEnd, Text.rdropWhile_append_cons hends.2.1, List.filter_append,
    List.filter_cons_of_pos (p := (!Path.isDropped ·)) hends.2.2,
    authorityOf_append_cons hbegun hends.1]

/-- Blanks and control characters behind the part are not read. -/
private theorem parse_strippedEnd_rdropWhile
    (h : Authority.parse .http (authorityOf (part.filter (!Path.isDropped ·))) = .ok a) :
    Authority.parse .http (authorityOf (strippedEnd (part.rdropWhile Text.isBlank))) = .ok a := by
  -- first the blanks are cut off, and from what remains the control characters and spaces
  obtain ⟨blanks, hblanks, hwhole⟩ : ∃ blanks, (∀ c ∈ blanks, Domain.IsSpacing c) ∧
      part.rdropWhile Text.isBlank ++ blanks = part :=
    ⟨_, fun c hc => .inl (List.mem_rtakeWhile_imp hc), List.rdropWhile_append_rtakeWhile⟩
  generalize part.rdropWhile Text.isBlank = inner at hwhole ⊢
  obtain ⟨controls, hcontrols, hinner⟩ : ∃ controls, (∀ c ∈ controls, Domain.IsSpacing c) ∧
      inner.rdropWhile (·.toNat ≤ 0x20) ++ controls = inner := by
    refine ⟨_, fun c hc => .inr ?_, List.rdropWhile_append_rtakeWhile⟩
    have hle := List.mem_rtakeWhile_imp hc
    exact of_decide_eq_true hle
  have hjunk : ∀ c ∈ (controls ++ blanks).filter (!Path.isDropped ·), Domain.IsSpacing c :=
    fun c hc => (List.mem_append.mp (List.mem_of_mem_filter hc)).elim (hcontrols c) (hblanks c)
  have hfilter : part.filter (!Path.isDropped ·) =
      strippedEnd inner ++ (controls ++ blanks).filter (!Path.isDropped ·) := by
    rw [strippedEnd, ← List.filter_append, ← List.append_assoc, hinner, hwhole]
  rw [hfilter] at h
  rwa [authorityOf_append_of_isSpacing hjunk h] at h

/-- What is skipped is no authority. -/
theorem authorityOf_eq_nil (h : ∀ c ∈ part, isSkipped c = true) :
    authorityOf (strippedEnd (part.rdropWhile Text.isBlank)) = [] := by
  have hslash : ∀ c ∈ strippedEnd (part.rdropWhile Text.isBlank), Path.isSlash c = true := by
    intro c hc
    obtain ⟨hmem, hdropped⟩ := List.mem_filter.mp hc
    have hmem := (List.rdropWhile_prefix _ _).subset ((List.rdropWhile_prefix _ _).subset hmem)
    rcases Bool.or_eq_true_iff.mp (h c hmem) with hslash | hdrop
    · exact hslash
    · rw [hdrop] at hdropped
      cases hdropped
  rw [authorityOf_eq, List.dropWhile_eq_nil_iff.mpr hslash]
  rfl

/-- **The authority that is checked.** If the part of an address that is checked holds anything but what
is skipped on the way to an authority, then it is an address itself, and its URL and the URL of the
whole address have one host, one port, one user name and one password. Otherwise it is no address. -/
theorem normalize_authority (htrim : Text.trim t = t) (hmark : ¬ schemeMark <:+: t.toList)
    (h : normalize t = .ok url) :
    ((∃ c ∈ authorityPart t.toList, isSkipped c = false) →
      ∃ base, normalize (String.ofList (authorityPart t.toList)) = .ok base ∧
        base.host = url.host ∧ base.port = url.port ∧ base.username = url.username ∧
        base.password = url.password) ∧
    ((∀ c ∈ authorityPart t.toList, isSkipped c = true) →
      (normalize (String.ofList (authorityPart t.toList))).toOption = none) := by
  have htrim : Text.trimChars t.toList = t.toList :=
    (Text.toList_trim t).symm.trans (congrArg String.toList htrim)
  obtain ⟨hcheck, hroot⟩ := root?_of_normalize htrim hmark h
  have hparse := authority_of_root? hroot
  obtain ⟨-, hhost, -⟩ := root?_eq_some_iff.mp hroot
  have hhead : ∀ c, (authorityPart t.toList).head? = some c → Text.isBlank c = false :=
    fun c hc => (Text.trimChars_eq_self_iff.mp htrim).1 c (head?_of_authorityPart hc)
  have hpart := toOption_normalize_part (fun c => of_mem_authorityPart) hhead hcheck
  refine ⟨fun hbegun => ?_, fun hskipped => ?_⟩
  · -- the part is the whole address, or ends before a character that ends the authority too
    rcases authorityPart_cases t.toList with hwhole | ⟨c, rest, hsplit, hc⟩
    · rw [hwhole, String.ofList_toList]
      exact ⟨url, h, rfl, rfl, rfl, rfl⟩
    · have hkept : ∀ c ∈ (authorityPart t.toList).rdropWhile Text.isBlank, c ≠ '?' ∧ c ≠ '#' :=
        fun c hc => (of_mem_authorityPart ((List.rdropWhile_prefix _ _).subset hc)).2
      rw [hsplit, authorityOf_strippedEnd hbegun hc] at hparse
      obtain ⟨base, hbase, hauthority⟩ :=
        exists_root?_eq_some (parse_strippedEnd_rdropWhile hparse) hhost hkept
      rw [hbase] at hpart
      obtain ⟨huser, hpassword, hhost, hport⟩ := Authority.mk.inj hauthority
      exact ⟨base, toOption_eq_some.mp hpart, hhost, hport, huser, hpassword⟩
  · rw [hpart, Option.eq_none_iff_forall_ne_some]
    intro base hbase
    have hnil := authority_of_root? hbase
    rw [authorityOf_eq_nil hskipped] at hnil
    cases hnil

/-- Behind a backslash and a tab the part that is checked is an address, also without the path; a
backslash alone is none. -/
theorem normalize_authority_backslash :
    (Text.trim "\\\tme@[::1]:8080/x" = "\\\tme@[::1]:8080/x" ∧
      ¬ schemeMark <:+: "\\\tme@[::1]:8080/x".toList ∧
      normalize "\\\tme@[::1]:8080/x" =
        .ok ⟨.http, "me", none, .ipv6 [0, 0, 0, 0, 0, 0, 0, 1], some 8080, ["x"], none, none⟩ ∧
      ∃ base, normalize (String.ofList (authorityPart "\\\tme@[::1]:8080/x".toList)) = .ok base ∧
        base.host = .ipv6 [0, 0, 0, 0, 0, 0, 0, 1] ∧ base.port = some 8080 ∧ base.username = "me" ∧
        base.password = none) ∧
    (Text.trim "\\/[::1]" = "\\/[::1]" ∧ ¬ schemeMark <:+: "\\/[::1]".toList ∧
      normalize "\\/[::1]" =
        .ok ⟨.http, "", none, .ipv6 [0, 0, 0, 0, 0, 0, 0, 1], none, [""], none, none⟩ ∧
      (∀ c ∈ authorityPart "\\/[::1]".toList, isSkipped c = true) ∧
      (normalize (String.ofList (authorityPart "\\/[::1]".toList))).toOption = none) := by
  have htrim : Text.trim "\\\tme@[::1]:8080/x" = "\\\tme@[::1]:8080/x" := by decide
  have hmark : ¬ schemeMark <:+: "\\\tme@[::1]:8080/x".toList := by decide
  have hurl : normalize "\\\tme@[::1]:8080/x" =
      .ok ⟨.http, "me", none, .ipv6 [0, 0, 0, 0, 0, 0, 0, 1], some 8080, ["x"], none, none⟩ := by rfl
  have htrim' : Text.trim "\\/[::1]" = "\\/[::1]" := by decide
  have hmark' : ¬ schemeMark <:+: "\\/[::1]".toList := by decide
  have hurl' : normalize "\\/[::1]" =
      .ok ⟨.http, "", none, .ipv6 [0, 0, 0, 0, 0, 0, 0, 1], none, [""], none, none⟩ := by rfl
  have hskipped : ∀ c ∈ authorityPart "\\/[::1]".toList, isSkipped c = true :=
    List.all_eq_true.mp (by decide)
  have hbegun : ∃ c ∈ authorityPart "\\\tme@[::1]:8080/x".toList, isSkipped c = false :=
    ⟨'m', by decide, by decide⟩
  exact ⟨⟨htrim, hmark, hurl, (normalize_authority htrim hmark hurl).1 hbegun⟩,
    htrim', hmark', hurl', hskipped, (normalize_authority htrim' hmark' hurl').2 hskipped⟩

/-- With a slash in front a mangled scheme is not caught: nothing is checked, and the name of the scheme
is taken for the host. -/
theorem normalize_passes_check :
    Text.trim "/https:/host" = "/https:/host" ∧ ¬ schemeMark <:+: "/https:/host".toList ∧
      normalize "/https:/host" = .ok ⟨.http, "", none, .domain "https", none, ["host"], none, none⟩ ∧
      authorityPart "/https:/host".toList = [] ∧ normalize (String.ofList []) = .error .empty := by
  refine ⟨by decide, by decide, ?_, by decide, by rfl⟩
  -- the name of a host is mapped by tables, which only the kernel evaluates in time
  rw [← toOption_eq_some]
  decide +kernel

end Deployer.Address
