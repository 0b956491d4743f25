import Deployer.Proofs.Address.Agreement
import Deployer.Proofs.Url.Ideographs

/-!
# The text of a normalized address is normalized to itself

The base URL of an instance address is under `https` exactly if the address says so
(`scheme_of_normalize`), and under `http` otherwise. Its parts are settled, so its text is an address that
is read as the URL again (`normalize_text`), unless a label of its domain has a form that is too long to be
read. There are such domains: `normalize_text_refused` is about seven hundred ideographs that lie far
apart.
-/

namespace Deployer.Url

variable {c d : Char} {name after : List Char} {url : Url}

/-! ### Letters in either case -/

private theorem isAlpha_of_isUpper (h : c.isUpper = true) : c.isAlpha = true :=
  Bool.or_eq_true_iff.mpr (.inl h)

private theorem toLower_eq_self (h : c.isUpper = false) : c.toLower = c :=
  dif_neg (of_decide_eq_false h)

private theorem isLower_toLower (h : c.isUpper = true) : c.toLower.isLower = true :=
  forall_ascii (p := fun c => c.isUpper = true → c.toLower.isLower = true) (by decide)
    (toNat_lt_of_isAlphanum (by rw [Char.isAlphanum, isAlpha_of_isUpper h, Bool.true_or])) h

/-- A character that is no small letter is that of no other one. -/
private theorem eq_of_toLower_eq (h : c.toLower = d) (hd : d.isLower = false) : c = d := by
  cases hupper : c.isUpper with
  | false => rw [← h, toLower_eq_self hupper]
  | true =>
    rw [← h, isLower_toLower hupper] at hd
    cases hd

/-- A name is its lower case form if there is no lower case letter in this. -/
private theorem eq_of_map_toLower_eq (h : name.map Char.toLower = after)
    (hafter : ∀ d ∈ after, d.isLower = false) : name = after := by
  induction name generalizing after with
  | nil => exact h
  | cons c name ih =>
    subst h
    obtain ⟨hc, hname⟩ := List.forall_mem_cons.mp hafter
    rw [List.map_cons, ← eq_of_toLower_eq rfl hc, ← ih rfl hname]

private theorem isAlpha_of_isAlpha_toLower (h : c.toLower.isAlpha = true) : c.isAlpha = true := by
  cases hupper : c.isUpper with
  | false => rwa [toLower_eq_self hupper] at h
  | true => exact isAlpha_of_isUpper hupper

/-! ### The scheme of a URL -/

/-- What a letter is among the characters of a URL. -/
private theorem facts_of_isAlpha (h : c.isAlpha = true) :
    0x20 < c.toNat ∧ (c == ':') = false ∧ isSchemeChar c = true :=
  forall_ascii (p := fun c => c.isAlpha = true → 0x20 < c.toNat ∧ (c == ':') = false ∧
    isSchemeChar c = true) (by decide)
    (toNat_lt_of_isAlphanum (by rw [Char.isAlphanum, h, Bool.true_or])) h

/-- Nothing is removed from a name of letters at the beginning. -/
private theorem stripped_append_colon (hne : name ≠ []) (hname : ∀ c ∈ name, c.isAlpha = true)
    (after : List Char) : stripped (name ++ ':' :: after) = name ++ ':' :: strippedEnd after := by
  have hvisible (c : Char) (hc : c ∈ name) : 0x20 < c.toNat := (facts_of_isAlpha (hname c hc)).1
  have hdrop : (name ++ ':' :: after).dropWhile (·.toNat ≤ 0x20) = name ++ ':' :: after := by
    refine Text.dropWhile_eq_self_iff_head?.mpr fun c hc => ?_
    rw [List.head?_append_of_ne_nil _ hne] at hc
    exact decide_eq_false (Nat.not_le_of_lt (hvisible c (List.mem_of_mem_head? hc)))
  have hstripped : stripped (name ++ ':' :: after) =
      strippedEnd ((name ++ ':' :: after).dropWhile (·.toNat ≤ 0x20)) := rfl
  rw [hstripped, hdrop, strippedEnd, Text.rdropWhile_append_cons (by decide), List.filter_append,
    filter_isDropped_eq_self hvisible, List.filter_cons_of_pos (by decide)]
  rfl

/-- A name of letters before a colon is cut off as the scheme. -/
private theorem cutScheme_append_colon (hne : name ≠ []) (hname : ∀ c ∈ name, c.isAlpha = true)
    (after : List Char) :
    cutScheme (name ++ ':' :: after) = some (name.map Char.toLower, after) := by
  have hfirst : Text.cutFirst (· == ':') (name ++ ':' :: after) = (name, some after) :=
    Text.cutFirst_append (fun c hc => (facts_of_isAlpha (hname c hc)).2.1) rfl
  obtain ⟨d, letters, rfl⟩ := List.exists_cons_of_ne_nil hne
  obtain ⟨hd, hletters⟩ := List.forall_mem_cons.mp hname
  have hall : letters.all isSchemeChar = true :=
    List.all_eq_true.mpr fun c hc => (facts_of_isAlpha (hletters c hc)).2.2
  rw [cutScheme, hfirst]
  dsimp only
  rw [hd, hall]
  rfl

/-- A name of letters before a colon is the scheme. -/
private theorem scheme_of_parse (hne : name ≠ []) (hname : ∀ c ∈ name, c.isAlpha = true)
    (h : Url.parse (name ++ ':' :: after) = .ok url) :
    Scheme.ofName? (name.map Char.toLower) = some url.scheme := by
  obtain ⟨_, rest, scheme, a, hscheme, hofName, -, rfl⟩ := parse_eq_ok_iff.mp h
  rw [stripped_append_colon hne hname, cutScheme_append_colon hne hname] at hscheme
  cases hscheme
  exact hofName

end Deployer.Url

namespace Deployer.Address

open Url

variable {address : String} {url : Url} {cs name after : List Char}

/-! ### The scheme of an address -/

/-- The beginning of an address that asks for `https`. -/
def secure : List Char := "https".toList ++ schemeMark

private theorem isAlpha_of_isSchemeName (h : isSchemeName name = true) :
    ∀ c ∈ name, c.isAlpha = true := by
  intro c hc
  have hlower : ∀ d ∈ name.map Char.toLower, d.isAlpha = true := by
    simp only [isSchemeName, sameLetters, Bool.or_eq_true, beq_iff_eq] at h
    rcases h with h | h <;> rw [h] <;> exact List.all_eq_true.mp (by decide)
  exact isAlpha_of_isAlpha_toLower (hlower _ (List.mem_map_of_mem hc))

private theorem colon_not_mem_of_isSchemeName (h : isSchemeName name = true) :
    ':' ∉ name := fun hmem =>
  absurd (isAlpha_of_isSchemeName h ':' hmem) (by decide)

private theorem ne_nil_of_isSchemeName (h : isSchemeName name = true) : name ≠ [] := by
  rintro rfl
  exact absurd h (by decide)

/-- The two schemes of an address, in any case. -/
private theorem ofName?_of_isSchemeName (h : isSchemeName name = true) :
    Scheme.ofName? (name.map Char.toLower) =
      some (if name.map Char.toLower = "https".toList then .https else .http) := by
  simp only [isSchemeName, sameLetters, Bool.or_eq_true, beq_iff_eq] at h
  rcases h with h | h <;> rw [h] <;> decide

/-- An address begins with `https://`, in whatever case, if its scheme is that name. -/
theorem sameLetters_secure_append (h : isSchemeName name = true) (after : List Char) :
    sameLetters ((name ++ schemeMark ++ after).take secure.length) secure = true ↔
      name.map Char.toLower = "https".toList := by
  simp only [isSchemeName, sameLetters, Bool.or_eq_true, beq_iff_eq] at h ⊢
  rw [List.map_take, List.map_append, List.map_append]
  rcases h with h | h <;> rw [h]
  · refine iff_of_false (fun heq => ?_) (by decide)
    have hfifth : ':' = 's' := Option.some.inj (congrArg (·[4]?) heq)
    exact absurd hfifth (by decide)
  · exact iff_of_true rfl (by decide)

/-- An address that begins with the secure scheme, in any case, begins with a scheme name and its
mark. -/
private theorem exists_of_sameLetters_secure
    (h : sameLetters (cs.take secure.length) secure = true) :
    ∃ name after, cs = name ++ schemeMark ++ after ∧ isSchemeName name = true := by
  rw [sameLetters, beq_iff_eq] at h
  have hname : (cs.take 5).map Char.toLower = "https".toList := by
    have htake := congrArg (List.take 5) h
    rw [← List.map_take, List.take_take] at htake
    exact htake
  have hmark : (cs.drop 5).take 3 = schemeMark := by
    have hdrop := congrArg (List.drop 5) h
    rw [← List.map_drop, List.drop_take] at hdrop
    exact eq_of_map_toLower_eq hdrop fun d hd =>
      Bool.eq_false_iff.mpr (List.any_eq_false.mp (by decide) d hd)
  refine ⟨cs.take 5, (cs.drop 5).drop 3, ?_, ?_⟩
  · rw [← hmark, List.append_assoc, List.take_append_drop, List.take_append_drop]
  · simp only [isSchemeName, sameLetters, hname]
    decide

/-- **The scheme of an address.** The URL is under `https` if the address asks for it, and under `http`
otherwise. -/
theorem scheme_of_normalize (h : normalize address = .ok url) :
    url.scheme =
      if sameLetters ((Text.trimChars address.toList).take secure.length) secure then .https
      else .http := by
  obtain ⟨full, hfull, hroot⟩ := exists_root?_of_normalize h
  have hparse := (root?_eq_some_iff.mp hroot).1
  unfold withScheme at hfull
  split at hfull
  next name after hcut =>
    split at hfull
    next hname =>
      cases hfull
      have htrimmed := Text.append_of_cutWord hcut
      rw [htrimmed] at hparse ⊢
      rw [List.append_assoc] at hparse
      have hscheme :=
        scheme_of_parse (ne_nil_of_isSchemeName hname) (isAlpha_of_isSchemeName hname) hparse
      rw [ofName?_of_isSchemeName hname] at hscheme
      rw [← Option.some.inj hscheme]
      exact if_congr (sameLetters_secure_append hname after).symm rfl rfl
    next => cases hfull
  next hcut =>
    split at hfull
    next => cases hfull
    next =>
      cases hfull
      -- if it began with the secure scheme, a scheme would have been cut off
      have hletters :
          ¬ sameLetters ((Text.trimChars address.toList).take secure.length) secure = true := by
        intro hletters
        obtain ⟨name, after, heq, hname⟩ := exists_of_sameLetters_secure hletters
        have hfound : Text.cutWord schemeMark (name ++ schemeMark ++ after) = some (name, after) :=
          Text.cutWord_append_append (colon_not_mem_of_isSchemeName hname) after
        rw [heq, hfound] at hcut
        cases hcut
      obtain ⟨a, -, rfl⟩ := parse_http_eq_ok_iff.mp hparse
      rw [if_neg hletters]
      rfl

/-! ### The text of a normalized address -/

private theorem isBlank_eq_false_of_isVisible {c : Char} (h : IsVisible c) :
    Text.isBlank c = false :=
  forall_ascii (p := fun c => IsVisible c → Text.isBlank c = false) (by decide)
    (Nat.lt_trans h.2 (by decide)) h

/-- The text of a URL under `http` or `https` is an address with a scheme. -/
theorem withScheme_write (shown : String) (h : url.scheme = .http ∨ url.scheme = .https) :
    withScheme shown url.write = .ok url.write := by
  have hname : isSchemeName url.scheme.name.toList = true := by
    rcases h with h | h <;> rw [h] <;> decide
  have hcut : Text.cutWord schemeMark url.write = some (url.scheme.name.toList, url.writeRest) := by
    have hwrite : url.write = url.scheme.name.toList ++ schemeMark ++ url.writeRest := by
      rw [write_eq, List.append_assoc]
      rfl
    rw [hwrite]
    exact Text.cutWord_append_append (colon_not_mem_of_isSchemeName hname) _
  rw [withScheme, hcut]
  dsimp only
  rw [if_pos hname]

/-- **The text of a settled URL is normalized to the URL**, unless its host has a form that is too long to
be read. -/
theorem normalize_text_of_isSettled (h : url.IsSettled)
    (hscheme : url.scheme = .http ∨ url.scheme = .https) (hquery : url.query = none)
    (hfragment : url.fragment = none) :
    normalize url.text =
      if url.host.HasLongForm then .error (.url url.text .badDomain) else .ok url := by
  -- nothing is trimmed, and the scheme is not supplied a second time
  have htrim : Text.trimChars url.write = url.write :=
    Text.trimChars_eq_self_iff.mpr
      ⟨fun c hc => isBlank_eq_false_of_isVisible (h.isVisible (List.mem_of_mem_head? hc)),
        fun c hc => isBlank_eq_false_of_isVisible (h.isVisible (List.mem_of_getLast? hc))⟩
  have hne : url.write ≠ [] := by
    rw [write_eq]
    exact List.append_ne_nil_of_right_ne_nil _ (List.cons_ne_nil _ _)
  have htext : Text.trimChars url.text.toList = url.write := by
    rw [text, String.toList_ofList, htrim]
  have hfull : withScheme url.text (Text.trimChars url.text.toList) = .ok url.write := by
    rw [htext, withScheme_write url.text hscheme]
  have hparse := h.parse_write
  split
  next hlong =>
    rw [if_pos hlong] at hparse
    exact normalize_eq_error_of_parse (htext ▸ hne) hfull hparse
  next hlong =>
    rw [if_neg hlong] at hparse
    have hhost : url.host.text.isEmpty = false := by
      rw [Bool.eq_false_iff, ne_eq, String.isEmpty_iff]
      exact fun hempty => Host.write_ne_nil h.authority.host (String.ofList_eq_empty_iff.mp hempty)
    have hroot : root? url.write = some url := root?_eq_some_iff.mpr ⟨hparse, hhost, hquery, hfragment⟩
    rw [← toOption_eq_some, toOption_normalize, if_neg (htext ▸ hne), hfull, toOption_ok,
      Option.bind_some, hroot]

/-- **Normalizing establishes what it keeps.** A base URL is under `https` exactly if its address, but
for blanks, begins with `https://` in any case, and else under `http`; it has a host, and neither a query
nor a fragment. Its text is an address with that same base URL, unless a label of the host has a form of
more than `Domain.maxFormLength` characters: such a form is written, but refused when it is read. -/
theorem normalize_text (h : normalize address = .ok url) :
    (url.scheme = .http ∨ url.scheme = .https) ∧ url.host.text ≠ "" ∧
      url.query = none ∧ url.fragment = none ∧
      (url.scheme = .https ↔
        sameLetters ((Text.trimChars address.toList).take secure.length) secure = true) ∧
      normalize url.text =
        if url.host.HasLongForm then .error (.url url.text .badDomain) else .ok url := by
  have hscheme := scheme_of_normalize h
  obtain ⟨full, -, hroot⟩ := exists_root?_of_normalize h
  obtain ⟨hparse, hhost, hquery, hfragment⟩ := root?_eq_some_iff.mp hroot
  have hone : url.scheme = .http ∨ url.scheme = .https := by
    rw [hscheme]
    split
    · exact .inr rfl
    · exact .inl rfl
  have hsecure : url.scheme = .https ↔
      sameLetters ((Text.trimChars address.toList).take secure.length) secure = true := by
    rw [hscheme]
    split
    next hletters => exact iff_of_true rfl hletters
    next hletters => exact iff_of_false (by decide) hletters
  refine ⟨hone, fun hempty => ?_, hquery, hfragment, hsecure,
    normalize_text_of_isSettled (isSettled_of_parse hparse) hone hquery hfragment⟩
  rw [hempty] at hhost
  cases hhost

/-- Blanks, capitals, the port of the scheme, dot segments and what must be encoded are gone after the
first time. -/
theorem normalize_text_spelled :
    normalize " hTTpS://us er:p|w@ExAmple.COM:0443/a/./%2E%2e/b c\\d" =
        .ok ⟨.https, "us%20er", some "p%7Cw", .domain "example.com", none, ["b%20c", "d"], none, none⟩ ∧
      normalize (text ⟨.https, "us%20er", some "p%7Cw", .domain "example.com", none, ["b%20c", "d"], none,
        none⟩) =
        .ok ⟨.https, "us%20er", some "p%7Cw", .domain "example.com", none, ["b%20c", "d"], none, none⟩ := by
  have hnormal : normalize " hTTpS://us er:p|w@ExAmple.COM:0443/a/./%2E%2e/b c\\d" =
      .ok ⟨.https, "us%20er", some "p%7Cw", .domain "example.com", none, ["b%20c", "d"], none, none⟩ := by
    -- the name of a host is mapped by tables, which only the kernel evaluates in time
    rw [← toOption_eq_some]
    decide +kernel
  have hshort : ¬ (Host.domain "example.com").HasLongForm := by decide
  obtain ⟨-, -, -, -, -, hagain⟩ := normalize_text hnormal
  exact ⟨hnormal, hagain.trans (if_neg hshort)⟩

/-! ### Forms that are too long -/

/-- The address of a host that is a label of ideographs. -/
theorem normalize_of_isIdeograph {label : List Char} (hne : label ≠ [])
    (hlength : label.length ≤ Domain.maxLabelLength) (h : ∀ c ∈ label, Text.IsIdeograph c) :
    normalize ("http://" ++ String.ofList label) = .ok (ideographic label) := by
  have hblank (c : Char) (hc : c ∈ label) : Text.isBlank c = false := by
    have hge := (h c hc).1
    simp only [Text.isBlank, Bool.or_eq_false_iff, Bool.and_eq_false_iff, decide_eq_false_iff_not,
      beq_eq_false_iff_ne]
    omega
  have hlabel : (String.ofList label).toList = label := String.toList_ofList
  have htrim : Text.trimChars (String.ofList label).toList = (String.ofList label).toList := by
    rw [hlabel, Text.trimChars_eq_self_iff]
    exact ⟨fun c hc => hblank c (List.mem_of_mem_head? hc),
      fun c hc => hblank c (List.mem_of_getLast? hc)⟩
  have hparse := Url.parse_of_isIdeograph hne hlength h
  have hempty : (ideographic label).host.text.isEmpty = false := by
    have hhost : (ideographic label).host.text ≠ "" :=
      mt String.ofList_eq_empty_iff.mp (Host.write_ne_nil (Url.isSettled_of_parse hparse).authority.host)
    rwa [Bool.eq_false_iff, ne_eq, String.isEmpty_iff]
  rw [← toOption_eq_some, toOption_normalize_http htrim, hlabel]
  exact root?_eq_some_iff.mpr ⟨hparse, hempty, rfl, rfl⟩

/-- Its base URL has a text that is no address, if the form of the label is too long. -/
private theorem normalize_text_ideographic {label : List Char} (hne : label ≠ [])
    (hlength : label.length ≤ Domain.maxLabelLength) (h : ∀ c ∈ label, Text.IsIdeograph c)
    (hlong : Domain.maxFormLength < (Punycode.encode label).length) :
    normalize (ideographic label).text = .error (.url (ideographic label).text .badDomain) := by
  have hsettled := Url.isSettled_of_parse (Url.parse_of_isIdeograph hne hlength h)
  rw [normalize_text_of_isSettled hsettled (.inl rfl) rfl rfl,
    if_pos (hasLongForm_ideographic hne h hlong)]

/-- Seven hundred ideographs, with 28 others between each and the next one. -/
def spread : List Char := (List.range 700).map fun i => Char.ofNat (0x4E00 + 29 * i)

/-- The code points of the long label are 29 apart. -/
private theorem toNat_spread {i : Nat} (h : i < 700) :
    (Char.ofNat (0x4E00 + 29 * i)).toNat = 0x4E00 + 29 * i := by
  rw [Char.ofNat, dif_pos (.inl (by omega))]
  rfl

/-- A domain whose form is written but not read: the text of its base URL is refused. -/
theorem normalize_text_refused :
    normalize ("http://" ++ String.ofList spread) = .ok (ideographic spread) ∧
      normalize (ideographic spread).text = .error (.url (ideographic spread).text .badDomain) := by
  have hlength : spread.length = 700 := by rw [spread, List.length_map, List.length_range]
  have hne : spread ≠ [] := List.ne_nil_of_length_pos (by omega)
  have hmax : spread.length ≤ Domain.maxLabelLength := by rw [hlength]; decide
  have hideographs : ∀ c ∈ spread, Text.IsIdeograph c := fun c hc => by
    obtain ⟨i, hi, rfl⟩ := List.mem_map.mp hc
    have hlt := List.mem_range.mp hi
    rw [Text.IsIdeograph, toNat_spread hlt]
    omega
  have hgap : spread.Pairwise fun c d => c.toNat + 28 < d.toNat := by
    refine List.pairwise_map.mpr (List.pairwise_lt_range.imp_of_mem fun hi hj hlt => ?_)
    rw [toNat_spread (List.mem_range.mp hi), toNat_spread (List.mem_range.mp hj)]
    omega
  have hlong : Domain.maxFormLength < (Punycode.encode spread).length := by
    have hthree := Punycode.length_encode 28 34 (by decide) hgap
      fun c hc => Nat.le_trans (by decide) (hideographs c hc).1
    rw [hlength] at hthree
    rw [Domain.maxFormLength]
    omega
  exact ⟨normalize_of_isIdeograph hne hmax hideographs,
    normalize_text_ideographic hne hmax hideographs hlong⟩

end Deployer.Address
