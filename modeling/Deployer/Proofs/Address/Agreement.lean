import Deployer.Proofs.Address.Normalization
import Deployer.Proofs.Text.Cutting
import Deployer.Proofs.Url.Parse

/-!
# Addresses with and without a scheme

An address without a scheme is checked before it is parsed: what stands before its path has to end in a
host or in a colon and digits. An address with a scheme is only parsed. So the check decides whether
the two forms of an address agree.

* `HostPort`: what passes the check, said without saying how a text is cut (`badPort?_eq_none_iff`).
* `normalize_agrees`: the two forms of an address that passes the check are refused both, or give the
  same URL, and an address that does not pass is refused. A port that is not a number is refused in
  both forms.

The check is stricter than the parser: neither `user:secret@host` nor a host and a colon pass it
(`normalize_forms_differ`).
-/

namespace Deployer.Address

open Url

variable {authority cs port : List Char} {t : String}

/-! ### The check -/

/-- The text that may stand where an address without a scheme names its host: it ends in a bracket, or
has no colon, or ends in a colon and digits. -/
inductive HostPort : List Char → Prop
  | bracket {authority : List Char} (h : authority.getLast? = some ']') : HostPort authority
  | plain {authority : List Char} (h : ':' ∉ authority) : HostPort authority
  | port {host port : List Char} (hne : port ≠ []) (h : ∀ c ∈ port, c.isDigit = true) :
    HostPort (host ++ ':' :: port)

/-- The check lets pass what may name a host. -/
theorem badPort?_eq_none_iff : badPort? authority = none ↔ HostPort authority := by
  constructor
  · intro h
    unfold badPort? at h
    split at h
    next hbracket => exact .bracket hbracket
    next =>
      rcases Text.exists_last_sep (· == ':') authority with
        hnone | ⟨host, c, port, rfl, hc, hport⟩
      · exact .plain fun hmem => absurd (hnone ':' hmem) (by decide)
      · have hcut : Text.cutLast (· == ':') (host ++ c :: port) = some (host, port) :=
          Text.cutLast_append hc hport
        rw [hcut] at h
        obtain rfl : c = ':' := beq_iff_eq.mp hc
        simp only [ite_eq_right_iff, reduceCtorEq, imp_false, Bool.or_eq_true, not_or,
          List.isEmpty_iff, Bool.not_eq_true', Bool.not_eq_false, List.all_eq_true] at h
        exact .port h.1 h.2
  · rintro (hbracket | hplain | ⟨hne, hdigits⟩)
    · rw [badPort?, if_pos hbracket]
    · have hnone : Text.cutLast (· == ':') authority = none :=
        Text.cutLast_eq_none fun c hc => beq_false_of_ne fun heq => hplain (heq ▸ hc)
      simp [badPort?, hnone]
    · rename_i host port
      have hcut : Text.cutLast (· == ':') (host ++ ':' :: port) = some (host, port) := by
        refine Text.cutLast_append (by decide) fun c hc => beq_false_of_ne ?_
        rintro rfl
        exact absurd (hdigits ':' hc) (by decide)
      have hall : port.all Char.isDigit = true := List.all_eq_true.mpr hdigits
      simp [badPort?, hcut, hne, hall]

instance (authority : List Char) : Decidable (HostPort authority) :=
  decidable_of_iff _ badPort?_eq_none_iff

/-! ### The two forms -/

theorem withScheme_plain (shown : String) (hmark : ¬ schemeMark <:+: cs)
    (hcheck : HostPort (authorityPart cs)) :
    withScheme shown cs = .ok ("http://".toList ++ cs) := by
  rw [withScheme, Text.cutWord_eq_none hmark]
  dsimp only
  rw [badPort?_eq_none_iff.mpr hcheck]

private theorem withScheme_plain_eq_error (shown : String) (hmark : ¬ schemeMark <:+: cs)
    (hcheck : ¬ HostPort (authorityPart cs)) :
    ∃ port, withScheme shown cs = .error (.port shown port) := by
  obtain ⟨port, hport⟩ := Option.ne_none_iff_exists'.mp (mt badPort?_eq_none_iff.mp hcheck)
  refine ⟨String.ofList port, ?_⟩
  rw [withScheme, Text.cutWord_eq_none hmark]
  dsimp only
  rw [hport]

theorem withScheme_http (shown : String) (cs : List Char) :
    withScheme shown ("http://".toList ++ cs) = .ok ("http://".toList ++ cs) := by
  have hcut : Text.cutWord schemeMark ("http://".toList ++ cs) = some ("http".toList, cs) := by
    simp [Text.cutWord, schemeMark, List.isPrefixOf]
  have hname : isSchemeName "http".toList = true := by decide
  rw [withScheme, hcut]
  dsimp only
  rw [if_pos hname]

/-- The explicit form is parsed as it stands. -/
theorem toOption_normalize_http (htrim : Text.trimChars t.toList = t.toList) :
    (normalize ("http://" ++ t)).toOption = root? ("http://".toList ++ t.toList) := by
  have hshort : Text.trimChars "http://".toList = "http://".toList := by decide
  have hfull : Text.trimChars ("http://" ++ t).toList = "http://".toList ++ t.toList := by
    rw [String.toList_append]
    by_cases hne : t.toList = []
    · rw [hne, List.append_nil, hshort]
    · exact Text.trimChars_append htrim hne hshort
  rw [toOption_normalize, hfull, withScheme_http, if_neg (by simp)]
  rfl

/-- What passes the check without the blanks around it is parsed under `http`. -/
theorem toOption_normalize_trimChars (hmark : ¬ schemeMark <:+: Text.trimChars t.toList)
    (hcheck : HostPort (authorityPart (Text.trimChars t.toList))) :
    (normalize t).toOption = root? ("http://".toList ++ Text.trimChars t.toList) := by
  rw [toOption_normalize, withScheme_plain t hmark hcheck]
  -- an empty address is refused before it is parsed, and under `http` it has no host
  by_cases hne : Text.trimChars t.toList = []
  · have hnone : root? "http://".toList = none := by decide
    rw [if_pos hne, hne, List.append_nil, hnone]
  · rw [if_neg hne]
    rfl

theorem toOption_normalize_plain (htrim : Text.trimChars t.toList = t.toList)
    (hmark : ¬ schemeMark <:+: t.toList) (hcheck : HostPort (authorityPart t.toList)) :
    (normalize t).toOption = root? ("http://".toList ++ t.toList) := by
  rw [← htrim] at hmark hcheck
  rw [toOption_normalize_trimChars hmark hcheck, htrim]

/-- What does not pass the check is refused. -/
theorem exists_normalize_eq_error (htrim : Text.trimChars t.toList = t.toList)
    (hmark : ¬ schemeMark <:+: t.toList) (hcheck : ¬ HostPort (authorityPart t.toList)) :
    ∃ port, normalize t = .error (.port t port) := by
  obtain ⟨port, hport⟩ := withScheme_plain_eq_error t hmark hcheck
  have hne : t.toList ≠ [] := by
    intro hempty
    rw [hempty] at hcheck
    exact hcheck (.plain List.not_mem_nil)
  rw [← htrim] at hne hport
  exact ⟨port, normalize_eq_error_of_withScheme hne hport⟩

/-- A port that is not a number is refused. -/
private theorem toOption_normalize_http_eq_none (htrim : Text.trimChars t.toList = t.toList)
    (hport : portText? ("http://" ++ t).toList = some port) (hdigit : ∃ c ∈ port, c.isDigit = false) :
    (normalize ("http://" ++ t)).toOption = none := by
  rw [toOption_normalize_http htrim]
  refine Option.eq_none_iff_forall_ne_some.mpr fun url hurl => ?_
  obtain ⟨hparse, -⟩ := root?_eq_some_iff.mp hurl
  obtain ⟨c, hc, hfalse⟩ := hdigit
  rw [String.toList_append] at hport
  rw [isDigit_of_parse hparse hport c hc] at hfalse
  cases hfalse

/-- **Two forms of one address.** Without a scheme an address is accepted only if what stands where it
names its host passes the check; if it does, then the address and the same address under `http` are
refused both, or give the same URL. A port that is not a number is refused in both forms. -/
theorem normalize_agrees (htrim : Text.trim t = t) (hmark : ¬ schemeMark <:+: t.toList) :
    (HostPort (authorityPart t.toList) →
      (normalize t).toOption = (normalize ("http://" ++ t)).toOption) ∧
    (¬ HostPort (authorityPart t.toList) → ∃ port, normalize t = .error (.port t port)) ∧
    ∀ port, portText? ("http://" ++ t).toList = some port → (∃ c ∈ port, c.isDigit = false) →
      (normalize t).toOption = none ∧ (normalize ("http://" ++ t)).toOption = none := by
  have htrim : Text.trimChars t.toList = t.toList := by
    rw [← String.toList_ofList (l := Text.trimChars t.toList)]
    exact congrArg String.toList htrim
  have hagree (hcheck : HostPort (authorityPart t.toList)) :
      (normalize t).toOption = (normalize ("http://" ++ t)).toOption := by
    rw [toOption_normalize_plain htrim hmark hcheck, toOption_normalize_http htrim]
  refine ⟨hagree, exists_normalize_eq_error htrim hmark, fun port hport hdigit => ?_⟩
  have hnone := toOption_normalize_http_eq_none htrim hport hdigit
  refine ⟨?_, hnone⟩
  by_cases hcheck : HostPort (authorityPart t.toList)
  · rw [hagree hcheck, hnone]
  · obtain ⟨port, herror⟩ := exists_normalize_eq_error htrim hmark hcheck
    rw [herror]
    rfl

/-- A user's name alone is accepted in both forms; a letter in a port is refused in both. -/
theorem normalize_agrees_user :
    (Text.trim "user@[::1]:0443" = "user@[::1]:0443" ∧ ¬ schemeMark <:+: "user@[::1]:0443".toList ∧
      HostPort (authorityPart "user@[::1]:0443".toList) ∧
      (normalize "user@[::1]:0443").toOption = (normalize ("http://" ++ "user@[::1]:0443")).toOption ∧
      (normalize ("http://" ++ "user@[::1]:0443")).toOption =
        some ⟨.http, "user", none, .ipv6 [0, 0, 0, 0, 0, 0, 0, 1], some 443, [""], none, none⟩) ∧
    (Text.trim "host:8o/" = "host:8o/" ∧ ¬ schemeMark <:+: "host:8o/".toList ∧
      ¬ HostPort (authorityPart "host:8o/".toList) ∧
      portText? ("http://" ++ "host:8o/").toList = some ['8', 'o'] ∧
      (∃ port, normalize "host:8o/" = .error (.port "host:8o/" port)) ∧
      (normalize ("http://" ++ "host:8o/")).toOption = none) := by
  have htrim : Text.trim "user@[::1]:0443" = "user@[::1]:0443" := by decide
  have hmark : ¬ schemeMark <:+: "user@[::1]:0443".toList := by decide
  have hcheck : HostPort (authorityPart "user@[::1]:0443".toList) := by decide
  have htrim' : Text.trim "host:8o/" = "host:8o/" := by decide
  have hmark' : ¬ schemeMark <:+: "host:8o/".toList := by decide
  have hcheck' : ¬ HostPort (authorityPart "host:8o/".toList) := by decide
  have hport : portText? ("http://" ++ "host:8o/").toList = some ['8', 'o'] := by decide
  obtain ⟨-, hrefused, hports⟩ := normalize_agrees htrim' hmark'
  exact ⟨⟨htrim, hmark, hcheck, (normalize_agrees htrim hmark).1 hcheck, by rfl⟩, htrim', hmark',
    hcheck', hport, hrefused hcheck', (hports _ hport ⟨'o', by decide, by decide⟩).2⟩

/-- Where the two forms differ: a user's name and password do not pass the check and are accepted under
`http`, and so is a colon with no port after it. -/
theorem normalize_forms_differ :
    (Text.trim "user:secret@host" = "user:secret@host" ∧
      ¬ schemeMark <:+: "user:secret@host".toList ∧
      normalize "user:secret@host" = .error (.port "user:secret@host" "secret@host") ∧
      normalize ("http://" ++ "user:secret@host") =
        .ok ⟨.http, "user", some "secret", .domain "host", none, [""], none, none⟩) ∧
    (Text.trim "[::1]:" = "[::1]:" ∧ ¬ schemeMark <:+: "[::1]:".toList ∧
      normalize "[::1]:" = .error (.port "[::1]:" "") ∧
      normalize ("http://" ++ "[::1]:") =
        .ok ⟨.http, "", none, .ipv6 [0, 0, 0, 0, 0, 0, 0, 1], none, [""], none, none⟩) := by
  refine ⟨⟨by decide, by decide, by rfl, ?_⟩, by decide, by decide, by rfl, by rfl⟩
  -- the name of a host is mapped by tables, which only the kernel evaluates in time
  rw [← toOption_eq_some]
  decide +kernel

end Deployer.Address
