import Deployer.Proofs.Url.Rereading

/-!
# Domains of ideographs

The tables of characters say nothing about the unified ideographs from U+4E00 to U+9FFF (`avoids`): these
are mapped to themselves, neither joined nor taken apart, and written from left to right. So a label of
ideographs is a domain, and its ASCII form is its Punycode form behind the marker
(`toAscii?_of_isIdeograph`), however long that is.

A URL can be read whose host is such a label (`parse_of_isIdeograph`). How long its form is at least is
said by `Punycode.length_encode`: steps over many places take three digits whatever the bias, and there
are many places between code points that lie apart. So the form may be too long to be read
(`hasLongForm_ideographic`).
-/

namespace Deployer.Text

variable {c d : Char} {table : CodeTable} {tables : List CodeTable} {lines : List (List Char)}
  {rest : List (List (List Char))}

/-! ### Tables without ideographs -/

/-- The unified ideographs of the first block that has them. -/
def IsIdeograph (c : Char) : Prop := 0x4E00 ≤ c.toNat ∧ c.toNat ≤ 0x9FFF

instance (c : Char) : Decidable (IsIdeograph c) := instDecidableAnd

theorem IsIdeograph.ne (h : IsIdeograph c) (hd : ¬ IsIdeograph d) : c ≠ d := by
  rintro rfl
  exact hd h

namespace CodeTable

/-- A table **avoids** the ideographs if the first range that does not end before them begins behind
them. -/
def Avoids (table : CodeTable) : Prop :=
  (table.find? (0x4E00 ≤ ·.last)).all (fun row => 0x9FFF < row.first && row.first ≤ row.last) = true

instance (table : CodeTable) : Decidable table.Avoids := inferInstanceAs (Decidable (_ = true))

theorem Avoids.row?_eq_none (h : table.Avoids) (hc : IsIdeograph c) : table.row? c = none := by
  have hbounds : 0x4E00 ≤ c.toNat ∧ c.toNat ≤ 0x9FFF := hc
  induction table with
  | nil => rfl
  | cons row table ih =>
    rw [Avoids, List.find?_cons] at h
    rw [row?, List.find?_cons]
    by_cases hlast : 0x4E00 ≤ row.last
    · simp only [decide_eq_true hlast, Option.all_some, Bool.and_eq_true, decide_eq_true_eq] at h
      have hfound : decide (c.toNat ≤ row.last) = true := decide_eq_true (by omega)
      have hfirst : decide (row.first ≤ c.toNat) = false := decide_eq_false (by omega)
      rw [hfound]
      dsimp only
      rw [Option.filter_some, hfirst]
      rfl
    · have hpassed : decide (c.toNat ≤ row.last) = false := decide_eq_false (by omega)
      rw [hpassed]
      rw [decide_eq_false hlast] at h
      exact ih h

theorem Avoids.contains_eq_false (h : table.Avoids) (hc : IsIdeograph c) : table.contains c = false := by
  rw [contains, h.row?_eq_none hc]
  rfl

theorem map_ofChars_cons (htable : table = .ofChars lines) (htables : tables = rest.map .ofChars) :
    table :: tables = (lines :: rest).map .ofChars := by
  rw [htable, htables, List.map_cons]

end CodeTable

end Deployer.Text

namespace Deployer.Url.Domain

open Text

variable {c d : Char} {label : List Char}

/-- The tables that say what becomes of a character in a domain. -/
def tables : List CodeTable :=
  [forbidden, paired, replacements, compositions, combiningClasses, marks] ++
    Direction.tables.map (·.2)

theorem avoids : ∀ table ∈ tables, table.Avoids := by
  have hread : ∃ lines : List (List (List Char)), tables = lines.map .ofChars ∧
      ∀ table ∈ lines.map CodeTable.ofChars, table.Avoids := by
    apply Exists.intro
    apply And.intro
    · unfold tables forbidden paired replacements compositions combiningClasses marks Direction.tables
        Direction.rights Direction.arabicLetters Direction.europeanNumbers Direction.numberSigns
        Direction.numberUnits Direction.arabicNumbers Direction.numberDividers Direction.directionMarks
        Direction.boundaries Direction.neutrals Direction.layouts
      iterate 17
        apply CodeTable.map_ofChars_cons
        · repeat apply CodeTable.ofLines_cons
          exact CodeTable.ofLines_nil
      exact List.map_nil.symm
    · decide +kernel
  obtain ⟨lines, heq, havoids⟩ := hread
  rwa [heq]

/-! ### An ideograph -/

/-- The mapping leaves ideographs as they are. -/
private theorem mapChar_of_isIdeograph (h : IsIdeograph c) : mapChar c = some [c] := by
  have hforbidden : forbidden.contains c = false :=
    (avoids forbidden (by simp [tables])).contains_eq_false h
  have hpaired : paired.row? c = none := (avoids paired (by simp [tables])).row?_eq_none h
  have hreplaced : replacements.row? c = none :=
    (avoids replacements (by simp [tables])).row?_eq_none h
  have hlarge : ¬ c.toNat < 0x80 := by have hge := h.1; omega
  rw [mapChar, if_neg hlarge, mapOther, hforbidden, hpaired, hreplaced]
  rfl

private theorem decomposed_of_isIdeograph (h : IsIdeograph c) : decomposed c = [c] := by
  have hvalues : compositions.values? c = none := by
    have hrow : compositions.row? c = none :=
      (avoids compositions (by simp [tables])).row?_eq_none h
    rw [CodeTable.values?, hrow]
    rfl
  have hsyllable : syllable? c = none := by
    rw [syllable?, if_neg (by have hle := h.2; omega)]
  rw [decomposed, hsyllable, hvalues]

private theorem combiningClass_of_isIdeograph (h : IsIdeograph c) : combiningClass c = 0 := by
  have hrow : combiningClasses.row? c = none :=
    (avoids combiningClasses (by simp [tables])).row?_eq_none h
  rw [combiningClass, CodeTable.values?, hrow]
  rfl

private theorem isMark_of_isIdeograph (h : IsIdeograph c) : isMark c = false :=
  (avoids marks (by simp [tables])).contains_eq_false h

/-- No ideograph is joined with another one. -/
private theorem composite?_of_isIdeograph (hc : IsIdeograph c) (hd : IsIdeograph d) :
    composite? c d = none := by
  have hsyllable : syllableOf? c d = none := by
    have hleading : leading? c = none := by rw [leading?, if_neg (by have hge := hc.1; omega)]
    have hletter : syllable? c = none := by rw [syllable?, if_neg (by have hle := hc.2; omega)]
    rw [syllableOf?, hleading, hletter]
  have hmem : d.toNat ∈ (decomposed c ++ [d]).map Char.toNat :=
    List.mem_map_of_mem (List.mem_append_right _ List.mem_cons_self)
  rw [composite?, hsyllable]
  dsimp only
  rw [find?_compositions_eq_none hmem (.inr hd)]
  rfl

/-- Ideographs are written from left to right. -/
private theorem isRightToLeft_of_isIdeograph (h : IsIdeograph c) : isRightToLeft c = false := by
  have hnone : Direction.tables.find? (·.2.contains c) = none := by
    refine List.find?_eq_none.mpr fun entry hentry => Bool.eq_false_iff.mp ?_
    have hmem : entry.2 ∈ tables := List.mem_append_right _ (List.mem_map_of_mem hentry)
    exact (avoids _ hmem).contains_eq_false h
  rw [isRightToLeft, Direction.ofChar, hnone]
  exact Bool.and_false _

/-! ### A label of ideographs -/

/-- A label of ideographs is its own mapped form. -/
private theorem mapped_of_isIdeograph (h : ∀ c ∈ label, IsIdeograph c) :
    mapped label = some label := by
  have hmapM : label.mapM mapChar = some (label.map ([·])) :=
    mapM_eq_some fun c hc => mapChar_of_isIdeograph (h c hc)
  have hflatten : (label.map ([·])).flatten = label := List.flatMap_singleton' label
  rw [mapped, hmapM, Option.map_some, hflatten,
    composed_eq_self (fun c hc => decomposed_of_isIdeograph (h c hc))
      (fun c hc => combiningClass_of_isIdeograph (h c hc))
      fun c hc d hd => composite?_of_isIdeograph (h c hc) (h d hd)]

private theorem areJoinersBound_of_isIdeograph (h : ∀ c ∈ label, IsIdeograph c)
    (before : List Char) :
    areJoinersBound before label = true := by
  induction label generalizing before with
  | nil => rfl
  | cons c label ih =>
    obtain ⟨hc, hlabel⟩ := List.forall_mem_cons.mp h
    have hnon : (c != nonJoiner) = true := bne_iff_ne.mpr (hc.ne (by decide))
    have hjoiner : (c != joiner) = true := bne_iff_ne.mpr (hc.ne (by decide))
    rw [areJoinersBound, hnon, hjoiner, ih hlabel]
    rfl

/-- A label of ideographs that is not too long can be part of a domain. -/
private theorem isValid_of_isIdeograph (hlength : label.length ≤ maxLabelLength)
    (h : ∀ c ∈ label, IsIdeograph c) : isValid label = true := by
  have hmark : (label.take 1).any isMark = false := List.any_eq_false.mpr fun c hc => by
    rw [isMark_of_isIdeograph (h c (List.mem_of_mem_take hc))]
    exact Bool.false_ne_true
  rw [isValid, mapped_of_isIdeograph h, hmark, areJoinersBound_of_isIdeograph h,
    decide_eq_true hlength]
  simp

/-- A label of ideographs is written in its Punycode form. -/
private theorem writeLabel_of_isIdeograph (hne : label ≠ []) (h : ∀ c ∈ label, IsIdeograph c) :
    writeLabel label = marker ++ Punycode.encode label := by
  obtain ⟨c, rest, rfl⟩ := List.exists_cons_of_ne_nil hne
  have hbeyond : Punycode.isAscii c = false :=
    decide_eq_false (by have hge := (h c List.mem_cons_self).1; omega)
  rw [writeLabel, List.all_cons, hbeyond]
  rfl

/-- The form has only characters that a host may have. -/
private theorem isHostChar_encode (h : ∀ c ∈ label, IsIdeograph c)
    (hc : c ∈ marker ++ Punycode.encode label) :
    isHostChar c = true := by
  rcases List.mem_append.mp hc with hc | hc
  · exact List.all_eq_true.mp (by decide : marker.all isHostChar = true) c hc
  · rcases Punycode.of_mem_encode hc with ⟨hc, hascii⟩ | rfl | ⟨d, hd, rfl⟩
    · have hge := (h c hc).1
      have hlt : c.toNat < 0x80 := of_decide_eq_true hascii
      omega
    · decide
    · have hall : ∀ d < 36, isHostChar (Punycode.digitChar d) = true := by decide
      exact hall d hd

/-- **A label of ideographs is a domain**, written in its Punycode form. -/
theorem toAscii?_of_isIdeograph (hne : label ≠ []) (hlength : label.length ≤ maxLabelLength)
    (h : ∀ c ∈ label, IsIdeograph c) : toAscii? label = some (marker ++ Punycode.encode label) := by
  have hpieces : pieces (· == '.') label = [label] :=
    pieces_eq_singleton fun c hc => beq_false_of_ne ((h c hc).ne (by decide))
  have hplain : plainLabel? label = some label := by
    have hmarker : ¬ marker.isPrefixOf label = true := fun hmarker =>
      absurd (h 'x' ((List.isPrefixOf_iff_prefix.mp hmarker).subset List.mem_cons_self)) (by decide)
    rw [plainLabel?, if_neg hmarker, if_pos (isValid_of_isIdeograph hlength h)]
  have hwrite := writeLabel_of_isIdeograph hne h
  have hordered : areOrdered [label] = true := by
    have hleft : label.any isRightToLeft = false := List.any_eq_false.mpr fun c hc => by
      rw [isRightToLeft_of_isIdeograph (h c hc)]
      exact Bool.false_ne_true
    rw [areOrdered, List.any_cons, hleft]
    rfl
  have hhost : (marker ++ Punycode.encode label).all isHostChar = true :=
    List.all_eq_true.mpr fun c => isHostChar_encode h
  have hjoined : joined ['.'] [marker ++ Punycode.encode label] = marker ++ Punycode.encode label := rfl
  rw [toAscii?_eq (mapped_of_isIdeograph h), hpieces, List.mapM_cons, hplain]
  simp only [List.mapM_nil, Option.pure_def, Option.bind_eq_bind, Option.bind_some, List.map_cons,
    List.map_nil, hwrite, hjoined, hordered, hhost, Bool.and_self, if_true]

end Deployer.Url.Domain

namespace Deployer.Url

open Text

variable {label : List Char}

/-! ### A URL of ideographs -/

/-- The URL under `http` whose host is a label of ideographs. -/
def ideographic (label : List Char) : Url :=
  ⟨.http, "", none, .domain (String.ofList (Domain.marker ++ Punycode.encode label)), none, [""], none,
    none⟩

private theorem pieces_of_isIdeograph (hne : label ≠ []) (h : ∀ c ∈ label, IsIdeograph c) :
    pieces (· == '.') (Domain.marker ++ Punycode.encode label) =
      [Domain.marker ++ Punycode.encode label] := by
  have hdot : '.' ∉ label := fun hmem => absurd (h _ hmem) (by decide)
  rw [← Domain.writeLabel_of_isIdeograph hne h]
  exact pieces_eq_singleton fun c hc => beq_false_of_ne fun heq =>
    Domain.dot_not_mem_writeLabel hdot (heq ▸ hc)

theorem hasLongForm_ideographic (hne : label ≠ []) (h : ∀ c ∈ label, IsIdeograph c)
    (hlong : Domain.maxFormLength < (Punycode.encode label).length) :
    (ideographic label).host.HasLongForm := by
  refine ⟨Domain.marker ++ Punycode.encode label, ?_, List.prefix_append _ _, ?_⟩
  · rw [String.toList_ofList, pieces_of_isIdeograph hne h]
    exact List.mem_singleton_self _
  · rwa [List.drop_left]

/-- A label of ideographs is read as a host. -/
theorem Host.parse_of_isIdeograph (hne : label ≠ []) (hlength : label.length ≤ Domain.maxLabelLength)
    (h : ∀ c ∈ label, IsIdeograph c) : Host.parse label = .ok (ideographic label).host := by
  have hbracket : label.head? ≠ some '[' := fun hhead =>
    absurd (h _ (List.mem_of_mem_head? hhead)) (by decide)
  have hpercent : '%' ∉ label := fun hmem => absurd (h _ hmem) (by decide)
  have hnumber : Ipv4.endsInNumber (Domain.marker ++ Punycode.encode label) = false := by
    rw [Ipv4.endsInNumber, Ipv4.partsOf, pieces_of_isIdeograph hne h]
    rfl
  rw [Host.parse_of_ne_bracket hbracket hpercent, Domain.toAscii?_of_isIdeograph hne hlength h,
    Option.elim_some, ofAscii, hnumber]
  rfl

/-- A text of ideographs is an authority that is only a host. -/
theorem Authority.parse_of_isIdeograph (hne : label ≠ []) (hlength : label.length ≤ Domain.maxLabelLength)
    (h : ∀ c ∈ label, IsIdeograph c) :
    Authority.parse .http label = .ok (ideographic label).authority := by
  have hat : Text.cutLast (· == '@') label = none :=
    Text.cutLast_eq_none fun c hc => beq_false_of_ne ((h c hc).ne (by decide))
  have hport : cutPort false label = (label, none) := by
    have hcut := cutPort_append (fun c hc => ⟨(h c hc).ne (by decide),
      (h c hc).ne (by decide)⟩) []
    rwa [List.append_nil, cutPort, List.append_nil] at hcut
  have hempty : label.isEmpty = false := List.isEmpty_eq_false_iff.mpr hne
  unfold Authority.parse
  rw [hat, Option.getD_none]
  dsimp only
  rw [hport, Host.parse_of_isIdeograph hne hlength h]
  dsimp only
  rw [hempty]
  rfl

/-- **A URL of ideographs** is read whatever its form. -/
theorem parse_of_isIdeograph (hne : label ≠ []) (hlength : label.length ≤ Domain.maxLabelLength)
    (h : ∀ c ∈ label, IsIdeograph c) :
    Url.parse ("http://".toList ++ label) = .ok (ideographic label) := by
  have hvisible (c : Char) (hc : c ∈ label) : 0x20 < c.toNat := by
    have hge := (h c hc).1
    omega
  have hends (c : Char) (hc : c ∈ label) : endsAuthority c = false := by
    have hne {d : Char} (hd : ¬ IsIdeograph d) : (c == d) = false := beq_false_of_ne ((h c hc).ne hd)
    simp only [endsAuthority, Path.isSlash, Bool.or_eq_false_iff]
    exact ⟨⟨⟨hne (by decide), hne (by decide)⟩, hne (by decide)⟩, hne (by decide)⟩
  obtain ⟨hauthority, hpieces⟩ :=
    ofPieces_of_endsAuthority_eq_false .http (ideographic label).authority hends
  refine parse_http_eq_ok_iff.mpr ⟨(ideographic label).authority, ?_, ?_⟩
  · rw [strippedEnd_eq_self hvisible, hauthority, Authority.parse_of_isIdeograph hne hlength h]
  · rw [strippedEnd_eq_self hvisible, hpieces]
    rfl

end Deployer.Url
