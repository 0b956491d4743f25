import Deployer.Proofs.Url.Labels
import Deployer.Proofs.Url.Path
import Deployer.Url.Host

/-!
# Paths and hosts that are written are read again

What has been read is **settled**. The segments of a path are encoded, and none of them is a dot segment
or holds a slash (`Path.IsSegment`); so the path is cut where it was put together, and nothing is
resolved (`Path.parse_write`). A host is in its written form (`Host.IsSettled`), and that form is read as
the host (`Host.parse_write`), but for a domain with a label whose form is too long to be read
(`Host.HasLongForm`).
-/

namespace Deployer.Url

variable {c : Char} {cs : List Char} {set : EncodeSet} {s : String} {path : Path} {host : Host}

/-! ### Visible characters -/

/-- The printable ASCII characters but for the space. -/
def IsVisible (c : Char) : Prop := 0x20 < c.toNat ∧ c.toNat < 0x7F

instance (c : Char) : Decidable (IsVisible c) := instDecidableAnd

theorem Encoded.isVisible (hset : ∀ n < 0x80, set (Char.ofNat n) = false → IsVisible (Char.ofNat n))
    (h : Encoded set cs) (hc : c ∈ cs) : IsVisible c :=
  forall_ascii (p := fun c => set c = false → IsVisible c) hset (h c hc).1 (h c hc).2

theorem Encoded.ne (h : Encoded set cs) (hc : c ∈ cs) {d : Char} (hd : set d = true) : c ≠ d := by
  rintro rfl
  exact absurd hd (Bool.eq_false_iff.mp (h c hc).2)

theorem encoded_ofList (h : set.SparesEscapes) (cs : List Char) :
    Encoded set (String.ofList (percentEncode set cs)).toList := by
  rw [String.toList_ofList]
  exact encoded_percentEncode h cs

theorem ofList_percentEncode (h : Encoded set s.toList) :
    String.ofList (percentEncode set s.toList) = s := by
  rw [percentEncode_eq_self h, String.ofList_toList]

/-! ### Paths -/

namespace Path

/-- What a segment of a path that has been read is. -/
structure IsSegment (s : String) : Prop where
  encoded : Encoded .path s.toList
  slash : ∀ c ∈ s.toList, isSlash c = false
  single : isSingleDot s.toList = false
  double : isDoubleDot s.toList = false

private theorem isSegment_empty : IsSegment "" :=
  ⟨fun _ h => (nomatch h), fun _ h => (nomatch h), rfl, rfl⟩

/-- Going up leaves only segments that were there. -/
private theorem mem_up (h : s ∈ path.up) : s ∈ path := by
  rcases up_eq path with heq | heq <;> rw [heq] at h
  · exact h
  · exact List.dropLast_subset path h

/-- A segment comes onto a path only if it is no dot segment. -/
private theorem of_mem_push {segment : List Char} {last : Bool} (h : s ∈ path.push segment last) :
    s ∈ path ∨ s = "" ∨
      s = String.ofList segment ∧ isSingleDot segment = false ∧ isDoubleDot segment = false := by
  have hlast {front : Path} (h : s ∈ front ++ if last then [""] else []) : s ∈ front ∨ s = "" := by
    refine (List.mem_append.mp h).imp_right fun h => ?_
    cases last
    · cases h
    · exact List.mem_singleton.mp h
  unfold push at h
  split at h
  next => exact (hlast h).imp mem_up .inl
  next hdouble =>
    split at h
    next => exact (hlast h).imp_right .inl
    next hsingle =>
      refine (List.mem_append.mp h).imp_right fun h => .inr ?_
      exact ⟨List.mem_singleton.mp h, Bool.eq_false_iff.mpr hsingle, Bool.eq_false_iff.mpr hdouble⟩

private theorem isSegment_of_mem_pushAll {segments : List (List Char)}
    (hpath : ∀ s ∈ path, IsSegment s) (hencoded : ∀ segment ∈ segments, Encoded .path segment)
    (hslash : ∀ segment ∈ segments, ∀ c ∈ segment, isSlash c = false) :
    ∀ s ∈ path.pushAll segments, IsSegment s := by
  have hpush {path : Path} (hpath : ∀ s ∈ path, IsSegment s) {segment : List Char} (last : Bool)
      (hmem : segment ∈ segments) : ∀ s ∈ path.push segment last, IsSegment s := by
    intro s hs
    rcases of_mem_push hs with hs | rfl | ⟨rfl, hsingle, hdouble⟩
    · exact hpath s hs
    · exact isSegment_empty
    · constructor <;> rw [String.toList_ofList]
      · exact hencoded segment hmem
      · exact hslash segment hmem
      · exact hsingle
      · exact hdouble
  induction segments generalizing path with
  | nil => exact hpath
  | cons segment rest ih =>
    cases rest with
    | nil => exact hpush hpath true List.mem_cons_self
    | cons next rest =>
      exact ih (hpush hpath false List.mem_cons_self)
        (fun t ht => hencoded t (List.mem_cons_of_mem _ ht))
        (fun t ht => hslash t (List.mem_cons_of_mem _ ht))
        fun hpath _ last ht => hpush hpath last (List.mem_cons_of_mem _ ht)

theorem isSegment_of_mem_parse (h : s ∈ parse cs) : IsSegment s := by
  have hempty : ∀ s ∈ ([] : Path), IsSegment s := fun _ h => nomatch h
  refine isSegment_of_mem_pushAll hempty (fun segment hmem => ?_) (fun segment hmem c hc => ?_) s h
  · obtain ⟨piece, -, rfl⟩ := List.mem_map.mp hmem
    exact encoded_percentEncode (by decide) piece
  · obtain ⟨piece, hpiece, rfl⟩ := List.mem_map.mp hmem
    rcases mem_percentEncode hc with rfl | halnum | ⟨hc, -⟩
    · rfl
    · exact forall_ascii (p := fun c => c.isAlphanum = true → isSlash c = false) (by decide)
        (toNat_lt_of_isAlphanum halnum) halnum
    · exact Text.sep_eq_false_of_mem_pieces hpiece hc

/-- Settled segments are pushed as they are. -/
private theorem pushAll_eq (path segments : Path) (h : ∀ s ∈ segments, IsSegment s) :
    path.pushAll (segments.map String.toList) = path ++ segments := by
  induction segments generalizing path with
  | nil => exact (List.append_nil path).symm
  | cons s rest ih =>
    obtain ⟨hs, hrest⟩ := List.forall_mem_cons.mp h
    have hpush (last : Bool) : path.push s.toList last = path ++ [s] := by
      rw [push_of_not_dots hs.single hs.double, String.ofList_toList]
    cases rest with
    | nil => exact hpush true
    | cons t rest =>
      rw [List.map_cons, List.map_cons, pushAll, hpush, ← List.map_cons, ih _ hrest, List.append_assoc,
        List.singleton_append]
      exact List.cons_ne_nil _ _

/-- **A path that is written is read again.** -/
theorem parse_write (hne : path ≠ []) (h : ∀ s ∈ path, IsSegment s) : parse path.write = path := by
  have hpieces : Text.pieces isSlash (Text.joined ['/'] (path.map String.toList)) =
      path.map String.toList := by
    refine Text.pieces_joined rfl (mt List.map_eq_nil_iff.mp hne) fun piece hpiece => ?_
    obtain ⟨s, hs, rfl⟩ := List.mem_map.mp hpiece
    exact (h s hs).slash
  have hencoded : (path.map String.toList).map (percentEncode .path) = path.map String.toList := by
    rw [List.map_map]
    exact List.map_congr_left fun s hs => percentEncode_eq_self (h s hs).encoded
  have hparse : parse ('/' :: Text.joined ['/'] (path.map String.toList)) =
      pushAll [] ((Text.pieces isSlash (Text.joined ['/'] (path.map String.toList))).map
        (percentEncode .path)) := rfl
  rw [write_eq hne, hparse, hpieces, hencoded, pushAll_eq [] path h, List.nil_append]

theorem isVisible_of_mem_write (h : ∀ s ∈ path, IsSegment s) (hc : c ∈ path.write) :
    IsVisible c ∧ c ≠ '?' ∧ c ≠ '#' := by
  obtain ⟨s, hs, hc⟩ := List.mem_flatMap.mp hc
  rcases List.mem_cons.mp hc with rfl | hc
  · decide
  · have hencoded := (h s hs).encoded
    exact ⟨hencoded.isVisible (by decide) hc, hencoded.ne hc rfl, hencoded.ne hc rfl⟩

end Path

/-! ### Hosts -/

namespace Host

/-- What a host that has been read is. -/
def IsSettled : Host → Prop
  | domain name => name ≠ "" ∧ Domain.IsWritten name.toList ∧ Ipv4.endsInNumber name.toList = false
  | ipv4 _ => True
  | ipv6 pieces => pieces.length = 8

/-- A host **has a long form** if it is a domain with a label whose form is too long to be read. -/
def HasLongForm : Host → Prop
  | domain name => Domain.NameHasLongForm name.toList
  | _ => False

instance (h : Host) : Decidable h.HasLongForm :=
  match h with
  | domain name => inferInstanceAs (Decidable (Domain.NameHasLongForm name.toList))
  | ipv4 _ => instDecidableFalse
  | ipv6 _ => instDecidableFalse

/-- A host that was read from the form of a domain is settled. -/
private theorem isSettled_of_ofAscii (hwritten : Domain.IsWritten cs) (h : ofAscii cs = .ok host) :
    host.IsSettled := by
  unfold ofAscii at h
  split at h
  next => cases h
  next hne =>
    split at h
    next =>
      split at h
      next =>
        cases h
        trivial
      next => cases h
    next hnumber =>
      cases h
      refine ⟨fun heq => hne ?_, ?_, ?_⟩
      · rw [String.ofList_eq_empty_iff.mp heq]
        rfl
      · rwa [String.toList_ofList]
      · rw [String.toList_ofList]
        exact Bool.eq_false_iff.mpr hnumber

/-- A host that was read is settled. -/
theorem isSettled_of_parse (h : Host.parse cs = .ok host) : host.IsSettled := by
  unfold Host.parse at h
  split at h
  next inner =>
    split at h
    next pieces _ hpieces =>
      cases h
      exact Ipv6.length_of_parse? hpieces
    next => cases h
  next =>
    split at h
    next => cases h
    next decoded hdecoded =>
      split at h
      next => cases h
      next name hname => exact isSettled_of_ofAscii (Domain.isWritten_of_toAscii? hname) h

/-- A text that does not begin with a bracket is read as a domain or an IPv4 address. -/
theorem parse_of_ne_bracket (h : cs.head? ≠ some '[') (hpercent : '%' ∉ cs) :
    Host.parse cs = (Domain.toAscii? cs).elim (.error .badDomain) ofAscii := by
  unfold Host.parse
  split
  next => exact absurd rfl h
  next =>
    rw [percentDecodeText?_eq_self hpercent]
    dsimp only
    rw [String.toList_ofList]
    cases Domain.toAscii? cs <;> rfl

private theorem parse_of_isHostChar (h : ∀ c ∈ cs, Domain.isHostChar c = true) :
    Host.parse cs = (Domain.toAscii? cs).elim (.error .badDomain) ofAscii := by
  refine parse_of_ne_bracket (fun hhead => ?_) fun hpercent => ?_
  · exact Domain.ne_of_isHostChar (h _ (List.mem_of_mem_head? hhead)) (by decide) rfl
  · exact Domain.ne_of_isHostChar (h _ hpercent) (by decide) rfl

/-! An IPv4 address is written like a domain whose labels are numbers. -/

theorem isHostChar_of_isDigit (h : c.isDigit = true) : Domain.isHostChar c = true :=
  forall_ascii (p := fun c => c.isDigit = true → Domain.isHostChar c = true) (by decide)
    (toNat_lt_of_isAlphanum (by rw [Char.isAlphanum, h, Bool.or_true])) h

theorem isHostChar_of_mem_ipv4 {address : UInt32} (h : c ∈ Ipv4.write address) :
    Domain.isHostChar c = true := by
  rcases Ipv4.isDigit_of_mem_write h with rfl | h
  · decide
  · exact isHostChar_of_isDigit h

private theorem isLabel_of_isDigit {label : List Char} (h : ∀ c ∈ label, c.isDigit = true) :
    Domain.IsLabel label := by
  have hmapped := Domain.mapped_eq_self fun c hc => isHostChar_of_isDigit (h c hc)
  have hascii : label.all Punycode.isAscii = true := List.all_eq_true.mpr fun c hc => by
    have hlt := (Domain.isHostChar_iff.mp (isHostChar_of_isDigit (h c hc))).1.2
    exact decide_eq_true (by omega)
  refine ⟨by rw [Domain.isValid, hmapped, hascii]; simp, fun hdot => ?_, fun _ hmarker => ?_⟩
  · exact absurd (h _ hdot) (by decide)
  · exact absurd (h 'x' (hmarker.subset List.mem_cons_self)) (by decide)

private theorem isWritten_ipv4 (address : UInt32) : Domain.IsWritten (Ipv4.write address) := by
  have hdigits {part : List Char} (hpart : part ∈ (Ipv4.octets address).map (Nat.toDigits 10)) :
      ∀ c ∈ part, c.isDigit = true := fun c => Ipv4.isDigit_of_mem_octet hpart
  have hascii : ∀ part ∈ (Ipv4.octets address).map (Nat.toDigits 10),
      ∀ c ∈ part, c.toNat < 0x7F := fun part hpart c hc =>
    (Domain.isHostChar_iff.mp (isHostChar_of_isDigit (hdigits hpart c hc))).1.2
  refine ⟨(Ipv4.octets address).map (Nat.toDigits 10), List.cons_ne_nil _ _,
    fun part hpart => isLabel_of_isDigit (hdigits hpart), ?_, ?_, fun c => isHostChar_of_mem_ipv4⟩
  · -- no digit is written from right to left
    have hnone : ((Ipv4.octets address).map (Nat.toDigits 10)).any (·.any Domain.isRightToLeft) =
        false := by
      refine List.any_eq_false.mpr fun part hpart => ?_
      rw [Bool.not_eq_true, List.any_eq_false]
      intro c hc
      have hlt := hascii part hpart c hc
      rw [Domain.isRightToLeft, decide_eq_false (by omega), Bool.false_and]
      exact Bool.false_ne_true
    rw [Domain.areOrdered, hnone]
    rfl
  · have hwrite : ((Ipv4.octets address).map (Nat.toDigits 10)).map Domain.writeLabel =
        (Ipv4.octets address).map (Nat.toDigits 10) := by
      refine (List.map_congr_left fun part hpart => ?_).trans (List.map_id _)
      have hall : part.all Punycode.isAscii = true := List.all_eq_true.mpr fun c hc =>
        decide_eq_true (by have hlt := hascii part hpart c hc; omega)
      rw [Domain.writeLabel, if_pos hall]
      rfl
    rw [hwrite]
    rfl

private theorem not_nameHasLongForm_ipv4 (address : UInt32) :
    ¬ Domain.NameHasLongForm (Ipv4.write address) := by
  rintro ⟨part, hpart, hmarker, -⟩
  rw [Ipv4.pieces_write] at hpart
  exact absurd (Ipv4.isDigit_of_mem_octet hpart (hmarker.subset List.mem_cons_self)) (by decide)

theorem isHostChar_of_isSettled {name : String} (h : (domain name).IsSettled) :
    ∀ c ∈ name.toList, Domain.isHostChar c = true := by
  obtain ⟨-, ⟨labels, hlabels⟩, -⟩ := h
  exact hlabels.host

theorem write_ne_nil (h : host.IsSettled) : host.write ≠ [] := by
  cases host with
  | domain name => exact mt String.toList_eq_nil_iff.mp h.1
  | ipv4 address =>
    intro hnil
    have hnumber := Ipv4.endsInNumber_write address
    rw [show Ipv4.write address = [] from hnil] at hnumber
    exact absurd hnumber (by decide)
  | ipv6 pieces => exact List.cons_ne_nil _ _

/-- **A host that is written is read again**, unless it has a long form. -/
theorem parse_write (h : host.IsSettled) :
    Host.parse host.write = if host.HasLongForm then .error .badDomain else .ok host := by
  have hempty : host.write.isEmpty = false := List.isEmpty_eq_false_iff.mpr (write_ne_nil h)
  cases host with
  | domain name =>
    have hhost := isHostChar_of_isSettled h
    obtain ⟨-, hwritten, hnumber⟩ := h
    rw [write] at hempty ⊢
    have hascii : ofAscii name.toList = .ok (domain name) := by
      rw [ofAscii, hempty, hnumber, String.ofList_toList]
      rfl
    rw [parse_of_isHostChar hhost, Domain.toAscii?_of_isWritten hwritten]
    by_cases hlong : Domain.NameHasLongForm name.toList
    · rw [if_pos hlong, if_pos (show (domain name).HasLongForm from hlong), Option.elim_none]
    · rw [if_neg hlong, if_neg (show ¬ (domain name).HasLongForm from hlong), Option.elim_some]
      exact hascii
  | ipv4 address =>
    -- it is read as a domain of digits first
    rw [write] at hempty ⊢
    rw [parse_of_isHostChar fun c => isHostChar_of_mem_ipv4,
      Domain.toAscii?_of_isWritten (isWritten_ipv4 address), if_neg (not_nameHasLongForm_ipv4 address),
      Option.elim_some, ofAscii, hempty, Ipv4.endsInNumber_write, Ipv4.parse?_write]
    rfl
  | ipv6 pieces =>
    have hinner : (Ipv6.write pieces ++ [']']).getLast? = some ']' ∧
        Ipv6.parse? (Ipv6.write pieces ++ [']']).dropLast = some pieces := by
      rw [List.getLast?_concat, List.dropLast_concat]
      exact ⟨rfl, Ipv6.parse?_write h⟩
    rw [write, List.cons_append]
    unfold Host.parse
    simp only [hinner]
    rfl

end Host

end Deployer.Url
