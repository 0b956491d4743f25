import Deployer.Proofs.Url.Authority
import Deployer.Proofs.Url.Settled

/-!
# URLs that are written are read again

The parts of a URL that has been read are settled (`isSettled_of_parse`): each is encoded, the host is in
its written form, and the port is not the one of the scheme. Settled parts are written with characters
that separate nothing where they stand. So a URL that is written is cut where it was put together, and
each part is read as it is (`parse_write`), unless the host has a form that is too long to be read.
-/

namespace Deployer.Url

variable {c : Char} {cs rest : List Char} {scheme : Scheme} {a : Authority} {host : Host} {url : Url}

/-! ### Authorities -/

namespace Authority

/-- The characters of an authority. -/
def write (a : Authority) : List Char :=
  writeUserinfo a.username a.password ++ a.host.write ++ writePort a.port

/-- What an authority that has been read is. -/
structure IsSettled (scheme : Scheme) (a : Authority) : Prop where
  username : Encoded .userinfo a.username.toList
  password : ∀ p, a.password = some p → p ≠ "" ∧ Encoded .userinfo p.toList
  host : a.host.IsSettled
  port : a.port ≠ some scheme.defaultPort

/-! ### Users -/

/-- What is read of a user is encoded, and a password is not empty. -/
private theorem encoded_parseUserinfo (cs : List Char) :
    Encoded .userinfo (parseUserinfo cs).1.toList ∧
      ∀ p, (parseUserinfo cs).2 = some p → p ≠ "" ∧ Encoded .userinfo p.toList := by
  have hspares : EncodeSet.userinfo.SparesEscapes := by decide
  unfold parseUserinfo
  dsimp only
  split
  next name c password _ =>
    refine ⟨encoded_ofList hspares name, fun p hp => ?_⟩
    obtain rfl := Option.some.inj hp
    refine ⟨fun hempty => ?_, encoded_ofList hspares _⟩
    have hnil := String.ofList_eq_empty_iff.mp hempty
    exact List.append_ne_nil_of_left_ne_nil (encodeChar_ne_nil _ c) _ hnil
  next => exact ⟨encoded_ofList hspares _, fun p hp => nomatch hp⟩

/-- A user name and a password are read again. -/
theorem parseUserinfo_append {username password : String} (husername : Encoded .userinfo username.toList)
    (hpassword : password ≠ "" ∧ Encoded .userinfo password.toList) :
    parseUserinfo (username.toList ++ ':' :: password.toList) = (username, some password) := by
  have hcolon : ∀ c ∈ username.toList, (c == ':') = false := fun c hc =>
    beq_false_of_ne (husername.ne hc rfl)
  obtain ⟨d, rest, hcons⟩ :=
    List.exists_cons_of_ne_nil (mt String.toList_eq_nil_iff.mp hpassword.1)
  have hcut : Text.cutFirst (· == ':') (username.toList ++ ':' :: d :: rest) =
      (username.toList, some (d :: rest)) := Text.cutFirst_append hcolon rfl
  unfold parseUserinfo
  rw [hcons, hcut]
  dsimp only
  rw [← hcons, ofList_percentEncode husername, ofList_percentEncode hpassword.2]

private theorem parseUserinfo_toList {username : String} (h : Encoded .userinfo username.toList) :
    parseUserinfo username.toList = (username, none) := by
  have hcut : Text.cutFirst (· == ':') username.toList = (username.toList, none) :=
    Text.cutFirst_eq_none fun c hc => beq_false_of_ne (h.ne hc rfl)
  unfold parseUserinfo
  rw [hcut]
  dsimp only
  rw [ofList_percentEncode h]

/-! ### Ports -/

private theorem isDigit_of_mem_writePort {port : Option UInt16} (h : c ∈ writePort port) :
    c = ':' ∨ c.isDigit = true := by
  cases port with
  | none => cases h
  | some p => exact (List.mem_cons.mp h).imp_right Ipv4.isDigit_of_mem_toDigits

/-- A port is not written if it is the one of the scheme. -/
private theorem ne_of_parsePort {own : UInt16} {port : Option UInt16}
    (h : parsePort (some own) cs = .ok port) :
    port ≠ some own := by
  unfold parsePort at h
  split at h
  next => cases h; exact (Option.some_ne_none own).symm
  next =>
    split at h
    next => cases h
    next =>
      split at h
      next n _ =>
        split at h
        next => cases h
        next =>
          split at h
          next => cases h; exact (Option.some_ne_none own).symm
          next hne =>
            cases h
            exact fun heq => hne heq.symm
      next => cases h

/-- A port that is written is read again. -/
private theorem parsePort_toDigits {own : UInt16} {p : UInt16} (h : p ≠ own) :
    parsePort (some own) (Nat.toDigits 10 p.toNat) = .ok (some p) := by
  have hempty : ¬ (Nat.toDigits 10 p.toNat).isEmpty = true := by simp
  have hdigits : ¬ (!(Nat.toDigits 10 p.toNat).all Char.isDigit) = true := by
    rw [Bool.not_eq_true', Bool.not_eq_false]
    exact List.all_eq_true.mpr fun c => Ipv4.isDigit_of_mem_toDigits
  have hbound : ¬ 65535 < p.toNat := by
    have hlt := p.toNat_lt
    omega
  have hp : p.toNat.toUInt16 = p := UInt16.ofNat_toNat
  have hown : ¬ some own = some p := fun heq => h (Option.some.inj heq).symm
  rw [parsePort, if_neg hempty, if_neg hdigits, Ipv4.digits?_toDigits (by decide) (by decide)]
  dsimp only
  rw [if_neg hbound, hp, if_neg hown]

/-! ### Where an authority is cut -/

theorem cutPort_append (h : ∀ c ∈ cs, c ≠ ':' ∧ c ≠ '[') (rest : List Char) :
    cutPort false (cs ++ rest) = (cs ++ (cutPort false rest).1, (cutPort false rest).2) := by
  induction cs with
  | nil => rfl
  | cons c cs ih =>
    obtain ⟨⟨hcolon, hbracket⟩, hcs⟩ := List.forall_mem_cons.mp h
    rw [List.cons_append, cutPort, beq_false_of_ne hcolon, beq_false_of_ne hbracket]
    simp only [Bool.false_and, Bool.or_false, Bool.false_eq_true, if_false, ih hcs, List.cons_append]

/-- Nothing is cut off in brackets. -/
private theorem cutPort_bracket (h : ']' ∉ cs) (rest : List Char) :
    cutPort true (cs ++ ']' :: rest) = (cs ++ ']' :: (cutPort false rest).1, (cutPort false rest).2) := by
  induction cs with
  | nil => rw [List.nil_append, cutPort]; rfl
  | cons c cs ih =>
    rw [List.mem_cons, not_or] at h
    have hinside : (c == '[' || true && c != ']') = true := by
      simp [show c ≠ ']' from fun heq => h.1 heq.symm]
    rw [List.cons_append, cutPort, hinside]
    simp only [Bool.not_true, Bool.and_false, Bool.false_eq_true, if_false, ih h.2, List.cons_append]

private theorem cutPort_writePort (port : Option UInt16) :
    cutPort false (writePort port) = ([], port.map fun p => Nat.toDigits 10 p.toNat) := by
  cases port with
  | none => rfl
  | some p => rfl

/-- The port is cut off behind the host. -/
private theorem cutPort_write (h : host.IsSettled) (port : Option UInt16) :
    cutPort false (host.write ++ writePort port) =
      (host.write, port.map fun p => Nat.toDigits 10 p.toNat) := by
  have hplain (h : ∀ c ∈ host.write, Domain.isHostChar c = true) :
      cutPort false (host.write ++ writePort port) =
        (host.write, port.map fun p => Nat.toDigits 10 p.toNat) := by
    have hne (c : Char) (hc : c ∈ host.write) : c ≠ ':' ∧ c ≠ '[' :=
      ⟨Domain.ne_of_isHostChar (h c hc) (by decide), Domain.ne_of_isHostChar (h c hc) (by decide)⟩
    rw [cutPort_append hne, cutPort_writePort, List.append_nil]
  cases host with
  | domain name => exact hplain (Host.isHostChar_of_isSettled h)
  | ipv4 address => exact hplain fun c => Host.isHostChar_of_mem_ipv4
  | ipv6 pieces =>
    have hbracket : ']' ∉ Ipv6.write pieces := fun hmem => by
      rcases Ipv6.of_mem_write hmem with heq | ⟨d, hd, heq⟩
      · exact absurd heq (by decide)
      · have hall : ∀ d < 16, ']' ≠ Nat.digitChar d := by decide
        exact hall d hd heq
    have hwrite : (Host.ipv6 pieces).write ++ writePort port =
        '[' :: (Ipv6.write pieces ++ ']' :: writePort port) := by
      simp [Host.write]
    have hinside : ('[' == '[' || false && '[' != ']') = true := rfl
    rw [hwrite, cutPort, hinside, cutPort_bracket hbracket, cutPort_writePort]
    rfl

end Authority

/-! ### Characters of an authority -/

/-- What a character of an authority is, and what it is not. -/
structure IsInner (c : Char) : Prop where
  visible : IsVisible c
  ends : endsAuthority c = false

private theorem isInner_of_isHostChar (h : Domain.isHostChar c = true) : IsInner c ∧ c ≠ '@' := by
  have hlt := (Domain.isHostChar_iff.mp h).1.2
  have hall : ∀ n < 0x80, Domain.isHostChar (Char.ofNat n) = true →
      (IsVisible (Char.ofNat n) ∧ endsAuthority (Char.ofNat n) = false) ∧ Char.ofNat n ≠ '@' := by
    decide
  obtain ⟨⟨hvisible, hends⟩, hat⟩ :=
    forall_ascii (p := fun c => Domain.isHostChar c = true →
      (IsVisible c ∧ endsAuthority c = false) ∧ c ≠ '@') hall (by omega) h
  exact ⟨⟨hvisible, hends⟩, hat⟩

theorem Encoded.isInner (h : Encoded .userinfo cs) (hc : c ∈ cs) : IsInner c := by
  have hall : ∀ n < 0x80, EncodeSet.userinfo (Char.ofNat n) = false →
      endsAuthority (Char.ofNat n) = false := by decide
  exact ⟨h.isVisible (by decide) hc, forall_ascii (p := fun c => EncodeSet.userinfo c = false →
    endsAuthority c = false) hall (h c hc).1 (h c hc).2⟩

/-- A host holds nothing that ends an authority, and no `@`. -/
theorem Host.isInner_of_mem_write (h : host.IsSettled) (hc : c ∈ host.write) :
    IsInner c ∧ c ≠ '@' := by
  cases host with
  | domain name => exact isInner_of_isHostChar (isHostChar_of_isSettled h c hc)
  | ipv4 address => exact isInner_of_isHostChar (isHostChar_of_mem_ipv4 hc)
  | ipv6 pieces =>
    rcases List.mem_cons.mp hc with rfl | hc
    · exact ⟨⟨by decide, by decide⟩, by decide⟩
    · rcases List.mem_append.mp hc with hc | hc
      · rcases Ipv6.of_mem_write hc with rfl | ⟨d, hd, rfl⟩
        · exact ⟨⟨by decide, by decide⟩, by decide⟩
        · have hall : ∀ d < 16, Domain.isHostChar (Nat.digitChar d) = true := by decide
          exact isInner_of_isHostChar (hall d hd)
      · obtain rfl := List.mem_singleton.mp hc
        exact ⟨⟨by decide, by decide⟩, by decide⟩

namespace Authority

private theorem isInner_of_mem_writePort {port : Option UInt16} (h : c ∈ writePort port) :
    IsInner c ∧ c ≠ '@' := by
  rcases isDigit_of_mem_writePort h with rfl | hdigit
  · exact ⟨⟨by decide, by decide⟩, by decide⟩
  · exact isInner_of_isHostChar (Host.isHostChar_of_isDigit hdigit)

/-- No character of a written authority ends it. -/
private theorem isInner_of_mem_write (h : a.IsSettled scheme) (hc : c ∈ a.write) : IsInner c := by
  rcases List.mem_append.mp hc with hc | hc
  · rcases List.mem_append.mp hc with hc | hc
    · cases hpassword : a.password with
      | none =>
        rw [hpassword, writeUserinfo] at hc
        split at hc
        · cases hc
        · rcases List.mem_append.mp hc with hc | hc
          · exact h.username.isInner hc
          · obtain rfl := List.mem_singleton.mp hc
            exact ⟨by decide, by decide⟩
      | some password =>
        rw [hpassword, writeUserinfo] at hc
        rcases List.mem_append.mp hc with hc | hc
        · rcases List.mem_append.mp hc with hc | hc
          · exact h.username.isInner hc
          · rcases List.mem_cons.mp hc with rfl | hc
            · exact ⟨by decide, by decide⟩
            · exact (h.password password hpassword).2.isInner hc
        · obtain rfl := List.mem_singleton.mp hc
          exact ⟨by decide, by decide⟩
    · exact (Host.isInner_of_mem_write h.host hc).1
  · exact (isInner_of_mem_writePort hc).1

/-! ### Reading an authority -/

/-- The user name and the password are cut off at the last `@`. -/
private theorem exists_cutLast_write (h : a.IsSettled scheme) :
    ∃ before, (Text.cutLast (· == '@') a.write).getD ([], a.write) =
        (before, a.host.write ++ writePort a.port) ∧
      parseUserinfo before = (a.username, a.password) := by
  -- behind the user there is no further `@`
  have hat : ∀ c ∈ a.host.write ++ writePort a.port, (c == '@') = false := fun c hc =>
    beq_false_of_ne ((List.mem_append.mp hc).elim
      (fun hc => (Host.isInner_of_mem_write h.host hc).2) fun hc => (isInner_of_mem_writePort hc).2)
  have hcut (before : List Char) : Text.cutLast (· == '@')
      (before ++ '@' :: (a.host.write ++ writePort a.port)) =
        some (before, a.host.write ++ writePort a.port) := Text.cutLast_append rfl hat
  cases hpassword : a.password with
  | some password =>
    have hwrite : a.write = (a.username.toList ++ ':' :: password.toList) ++
        '@' :: (a.host.write ++ writePort a.port) := by
      simp [write, writeUserinfo, hpassword]
    refine ⟨_, by rw [hwrite, hcut, Option.getD_some], ?_⟩
    exact parseUserinfo_append h.username (h.password password hpassword)
  | none =>
    by_cases hempty : a.username = ""
    · have hwrite : a.write = a.host.write ++ writePort a.port := by
        simp [write, writeUserinfo, hpassword, hempty]
      refine ⟨[], by rw [hwrite, Text.cutLast_eq_none hat, Option.getD_none], ?_⟩
      rw [hempty]
      rfl
    · have hwrite : a.write =
          a.username.toList ++ '@' :: (a.host.write ++ writePort a.port) := by
        simp [write, writeUserinfo, hpassword, hempty]
      exact ⟨_, by rw [hwrite, hcut, Option.getD_some], parseUserinfo_toList h.username⟩

/-- **An authority that is written is read again**, unless its host has a long form. -/
theorem parse_write (h : a.IsSettled scheme) : Authority.parse scheme a.write =
    if a.host.HasLongForm then .error .badDomain else .ok a := by
  obtain ⟨before, hcut, huser⟩ := exists_cutLast_write h
  have hne : a.host.write.isEmpty = false := List.isEmpty_eq_false_iff.mpr (Host.write_ne_nil h.host)
  have hport : parsePort (some scheme.defaultPort)
      ((a.port.map fun p => Nat.toDigits 10 p.toNat).getD []) = .ok a.port := by
    have hown := h.port
    cases hp : a.port with
    | none => rfl
    | some p =>
      rw [hp] at hown
      exact parsePort_toDigits fun heq => hown (congrArg some heq)
  unfold Authority.parse
  rw [hcut]
  dsimp only
  rw [huser, cutPort_write h.host, Host.parse_write h.host]
  dsimp only
  rw [hne, if_neg Bool.false_ne_true, hport]
  split <;> rfl

theorem isSettled_of_parse (h : Authority.parse scheme cs = .ok a) : a.IsSettled scheme := by
  have hport := ne_of_parsePort (parsePort_of_parse h)
  unfold Authority.parse at h
  generalize (Text.cutLast (· == '@') cs).getD ([], cs) = parts at h
  obtain ⟨before, after⟩ := parts
  dsimp only at h
  generalize cutPort false after = parts at h
  obtain ⟨hostText, portText⟩ := parts
  dsimp only at h
  split at h
  next => cases h
  next =>
    obtain ⟨host, hhost, h⟩ := bind_eq_ok.mp h
    obtain ⟨port, -, h⟩ := bind_eq_ok.mp h
    cases h
    obtain ⟨husername, hpassword⟩ := encoded_parseUserinfo before
    exact ⟨husername, hpassword, Host.isSettled_of_parse hhost, hport⟩

end Authority

/-! ### URLs -/

/-- What a URL that has been read is. -/
structure IsSettled (url : Url) : Prop where
  authority : url.authority.IsSettled url.scheme
  path_ne_nil : url.path ≠ []
  path : ∀ s ∈ url.path, Path.IsSegment s
  query : ∀ q, url.query = some q → Encoded .query q.toList
  fragment : ∀ f, url.fragment = some f → Encoded .fragment f.toList

private theorem encoded_encodedPart {set : EncodeSet} {part : Option (List Char)} {s : String}
    (hset : set.SparesEscapes) (h : encodedPart set part = some s) : Encoded set s.toList := by
  obtain ⟨cs, -, rfl⟩ := Option.map_eq_some_iff.mp h
  exact encoded_ofList hset cs

/-- **The parts of a URL that is read are settled.** -/
theorem isSettled_of_parse {full : List Char} (h : Url.parse full = .ok url) : url.IsSettled := by
  obtain ⟨_, rest, scheme, a, -, -, ha, rfl⟩ := parse_eq_ok_iff.mp h
  exact ⟨Authority.isSettled_of_parse ha, Path.parse_ne_nil _, fun _ => Path.isSegment_of_mem_parse,
    fun _ => encoded_encodedPart (by decide), fun _ => encoded_encodedPart (by decide)⟩

/-- The text behind the colon and the slashes of a URL. -/
def writeRest (url : Url) : List Char :=
  url.authority.write ++ url.path.write ++ writeAfter '?' url.query ++ writeAfter '#' url.fragment

theorem write_eq (url : Url) :
    url.write = url.scheme.name.toList ++ ':' :: '/' :: '/' :: url.writeRest := by
  simp [write, writeRest, Authority.write, authority]

/-! ### The pieces of a written URL -/

theorem cutTail_append {front : List Char} {query fragment : Option String}
    (hfront : ∀ c ∈ front, c ≠ '?' ∧ c ≠ '#') (hquery : ∀ q, query = some q → Encoded .query q.toList) :
    cutTail (front ++ writeAfter '?' query ++ writeAfter '#' fragment) =
      (front, query.map String.toList, fragment.map String.toList) := by
  -- the fragment is cut off first, so the query must not hold its sign
  have hhash : ∀ c ∈ front ++ writeAfter '?' query, (c == '#') = false := by
    intro c hc
    rcases List.mem_append.mp hc with hc | hc
    · exact beq_false_of_ne (hfront c hc).2
    · cases query with
      | none => cases hc
      | some q =>
        rcases List.mem_cons.mp hc with rfl | hc
        · rfl
        · exact beq_false_of_ne ((hquery q rfl).ne hc rfl)
  have hcutHash : Text.cutFirst (· == '#') (front ++ writeAfter '?' query ++ writeAfter '#' fragment) =
      (front ++ writeAfter '?' query, fragment.map String.toList) := by
    cases fragment with
    | none =>
      rw [writeAfter, List.append_nil]
      exact Text.cutFirst_eq_none hhash
    | some f => exact Text.cutFirst_append hhash rfl
  have hmark : ∀ c ∈ front, (c == '?') = false := fun c hc => beq_false_of_ne (hfront c hc).1
  have hcutMark : Text.cutFirst (· == '?') (front ++ writeAfter '?' query) =
      (front, query.map String.toList) := by
    cases query with
    | none =>
      rw [writeAfter, List.append_nil]
      exact Text.cutFirst_eq_none hmark
    | some q => exact Text.cutFirst_append hmark rfl
  rw [cutTail, hcutHash]
  dsimp only
  rw [hcutMark]

theorem IsInner.isSlash_eq_false (h : IsInner c) : Path.isSlash c = false := by
  have hends := h.ends
  simp only [endsAuthority, Bool.or_eq_false_iff] at hends
  exact hends.1.1

theorem IsInner.ne (h : IsInner c) : c ≠ '?' ∧ c ≠ '#' := by
  have hends := h.ends
  simp only [endsAuthority, Bool.or_eq_false_iff, beq_eq_false_iff_ne] at hends
  exact ⟨hends.1.2, hends.2⟩

namespace IsSettled

private theorem isInner (h : url.IsSettled) (hc : c ∈ url.authority.write) : IsInner c :=
  Authority.isInner_of_mem_write h.authority hc

private theorem isVisible_writeAfter {set : EncodeSet} {sign : Char} {part : Option String}
    (hset : ∀ n < 0x80, set (Char.ofNat n) = false → IsVisible (Char.ofNat n)) (hsign : IsVisible sign)
    (hpart : ∀ s, part = some s → Encoded set s.toList) (hc : c ∈ writeAfter sign part) :
    IsVisible c := by
  cases part with
  | none => cases hc
  | some s =>
    rcases List.mem_cons.mp hc with rfl | hc
    · exact hsign
    · exact (hpart s rfl).isVisible hset hc

/-- A URL is written with visible characters. -/
theorem isVisible (h : url.IsSettled) (hc : c ∈ url.write) : IsVisible c := by
  have hname : url.scheme.name.toList.all (fun c => decide (IsVisible c)) = true := by
    cases url.scheme <;> decide
  rw [write_eq] at hc
  rcases List.mem_append.mp hc with hc | hc
  · exact of_decide_eq_true (List.all_eq_true.mp hname c hc)
  · simp only [List.mem_cons] at hc
    rcases hc with rfl | rfl | rfl | hc
    · decide
    · decide
    · decide
    · rcases List.mem_append.mp hc with hc | hc
      · rcases List.mem_append.mp hc with hc | hc
        · rcases List.mem_append.mp hc with hc | hc
          · exact (h.isInner hc).visible
          · exact (Path.isVisible_of_mem_write h.path hc).1
        · exact isVisible_writeAfter (by decide) (by decide) h.query hc
      · exact isVisible_writeAfter (by decide) (by decide) h.fragment hc

/-- So nothing is removed from a written URL before it is read. -/
private theorem stripped_write (h : url.IsSettled) : stripped url.write = url.write := by
  have hvisible (c : Char) (hc : c ∈ url.write) : 0x20 < c.toNat := (h.isVisible hc).1
  have hdrop : url.write.dropWhile (·.toNat ≤ 0x20) = url.write :=
    Text.dropWhile_eq_self_iff_head?.mpr fun c hc =>
      decide_eq_false (Nat.not_le_of_lt (hvisible c (List.mem_of_mem_head? hc)))
  have hstripped : stripped url.write = strippedEnd (url.write.dropWhile (·.toNat ≤ 0x20)) := rfl
  rw [hstripped, hdrop, strippedEnd_eq_self hvisible]

/-- The query and the fragment are cut off where they were written. -/
private theorem cutTail_writeRest (h : url.IsSettled) :
    cutTail url.writeRest = (url.authority.write ++ url.path.write, url.query.map String.toList,
      url.fragment.map String.toList) := by
  refine cutTail_append (fun c hc => ?_) h.query
  rcases List.mem_append.mp hc with hc | hc
  · exact (h.isInner hc).ne
  · exact (Path.isVisible_of_mem_write h.path hc).2

private theorem dropWhile_writeRest (h : url.IsSettled) :
    ('/' :: '/' :: url.writeRest).dropWhile Path.isSlash = url.writeRest := by
  have hne : url.authority.write ≠ [] := by
    have hhost : url.host.write ≠ [] := Host.write_ne_nil h.authority.host
    simp [Authority.write, Url.authority, hhost]
  obtain ⟨c, cs, hcons⟩ := List.exists_cons_of_ne_nil hne
  have hslash : Path.isSlash c = false := (h.isInner (hcons ▸ List.mem_cons_self)).isSlash_eq_false
  have hrest : url.writeRest.dropWhile Path.isSlash = url.writeRest := by
    refine Text.dropWhile_eq_self_iff_head?.mpr fun d hd => ?_
    rw [writeRest, hcons] at hd
    obtain rfl : c = d := Option.some.inj hd
    exact hslash
  exact hrest

/-- The slashes are left out, and the authority and the path remain. -/
private theorem frontOf_writeRest (h : url.IsSettled) :
    frontOf ('/' :: '/' :: url.writeRest) = url.authority.write ++ url.path.write := by
  rw [frontOf, h.dropWhile_writeRest, h.cutTail_writeRest]

/-- Where the path begins, the authority ends. -/
private theorem takeWhile_front (h : url.IsSettled) :
    (url.authority.write ++ url.path.write).takeWhile (!Path.isSlash ·) = url.authority.write ∧
      (url.authority.write ++ url.path.write).dropWhile (!Path.isSlash ·) = url.path.write := by
  have hkept : ∀ c ∈ url.authority.write, (!Path.isSlash c) = true := fun c hc => by
    rw [(h.isInner hc).isSlash_eq_false]
    rfl
  rw [List.takeWhile_append_of_pos hkept, List.dropWhile_append_of_pos hkept,
    Path.write_eq h.path_ne_nil, List.takeWhile_cons_of_neg (by decide),
    List.dropWhile_cons_of_neg (by decide), List.append_nil]
  exact ⟨rfl, rfl⟩

/-- The pieces that a written URL is cut into are the parts that it was put together from. -/
private theorem ofPieces_writeRest (h : url.IsSettled) :
    ofPieces url.scheme url.authority ('/' :: '/' :: url.writeRest) = url := by
  have hpath : Path.parse (pathOf ('/' :: '/' :: url.writeRest)) = url.path := by
    rw [pathOf, h.frontOf_writeRest, h.takeWhile_front.2, Path.parse_write h.path_ne_nil h.path]
  have hpart {set : EncodeSet} {part : Option String}
      (hpart : ∀ s, part = some s → Encoded set s.toList) :
      encodedPart set (part.map String.toList) = part := by
    cases part with
    | none => rfl
    | some s => exact congrArg some (ofList_percentEncode (hpart s rfl))
  have hquery : encodedPart .query (queryOf ('/' :: '/' :: url.writeRest)) = url.query := by
    rw [queryOf, h.dropWhile_writeRest, h.cutTail_writeRest]
    exact hpart h.query
  have hfragment : encodedPart .fragment (fragmentOf ('/' :: '/' :: url.writeRest)) = url.fragment := by
    rw [fragmentOf, h.dropWhile_writeRest, h.cutTail_writeRest]
    exact hpart h.fragment
  rw [ofPieces, hpath, hquery, hfragment]
  rfl

/-- **A URL that is written is read again**, unless its host has a long form. -/
theorem parse_write (h : url.IsSettled) : Url.parse url.write =
    if url.host.HasLongForm then .error .badDomain else .ok url := by
  have hscheme (rest : List Char) : cutScheme (url.scheme.name.toList ++ ':' :: rest) =
      some (url.scheme.name.toList, rest) := by
    cases url.scheme <;> rfl
  have hname : Scheme.ofName? url.scheme.name.toList = some url.scheme := by
    cases url.scheme <;> decide
  have hauthority : authorityOf ('/' :: '/' :: url.writeRest) = url.authority.write := by
    rw [authorityOf, h.frontOf_writeRest, h.takeWhile_front.1]
  rw [Url.parse, h.stripped_write, write_eq, hscheme]
  dsimp only
  rw [hname]
  dsimp only
  rw [parseAfter_eq, hauthority, Authority.parse_write h.authority]
  by_cases hlong : url.host.HasLongForm
  · rw [if_pos hlong, if_pos (show url.authority.host.HasLongForm from hlong)]
    rfl
  · rw [if_neg hlong, if_neg (show ¬ url.authority.host.HasLongForm from hlong)]
    exact congrArg Except.ok h.ofPieces_writeRest

end IsSettled

end Deployer.Url
