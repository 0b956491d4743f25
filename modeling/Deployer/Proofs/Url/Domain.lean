import Deployer.Proofs.Result
import Deployer.Proofs.Text.Composition
import Deployer.Proofs.Text.Cutting
import Deployer.Text.Blank
import Deployer.Url.Domain

/-!
# No domain holds spacing

Blanks and control characters are cut off around an address and around a URL. Within a domain they are
refused: each is forbidden, or stands for a character up to the space, which is kept when the labels are
composed and written, and is no character of a host (`not_isSpacing_of_toAscii?`).

The blanks beyond ASCII are few, and what the tables make of them is evaluated (`mapOther_wideBlanks`).
The characters up to the space are followed through the steps one by one: no table composes them, and a
label is written with all its ASCII characters (`mem_encode`).
-/

namespace Deployer.Url.Domain

open Text

variable {c d : Char} {cs domain name label plain : List Char} {labels : List (List Char)}

/-! ### Spacing -/

/-- The characters that may be cut off around an address or around a URL. -/
def IsSpacing (c : Char) : Prop := isBlank c = true ∨ c.toNat ≤ 0x20

instance (c : Char) : Decidable (IsSpacing c) := instDecidableOr

/-- The blanks beyond ASCII. -/
def wideBlanks : List Nat :=
  [0x85, 0xA0, 0x1680, 0x2000, 0x2001, 0x2002, 0x2003, 0x2004, 0x2005, 0x2006, 0x2007, 0x2008, 0x2009,
    0x200A, 0x2028, 0x2029, 0x202F, 0x205F, 0x3000]

theorem IsSpacing.le_or_mem_wideBlanks (h : IsSpacing c) :
    c.toNat ≤ 0x20 ∨ c.toNat ∈ wideBlanks := by
  rcases h with h | h
  · simp only [isBlank, Bool.or_eq_true, Bool.and_eq_true, decide_eq_true_eq, beq_iff_eq] at h
    simp only [wideBlanks, List.mem_cons]
    omega
  · exact .inl h

private theorem le_of_mem_wideBlanks : ∀ code ∈ wideBlanks, 0x80 ≤ code := by decide

/-- No spacing is a printable ASCII character. -/
theorem IsSpacing.le_or_le (h : IsSpacing c) : c.toNat ≤ 0x20 ∨ 0x80 ≤ c.toNat :=
  h.le_or_mem_wideBlanks.imp_right (le_of_mem_wideBlanks c.toNat)

theorem not_isSpacing_of_isDigit (h : c.isDigit = true) : ¬ IsSpacing c := by
  intro hspacing
  have hbounds := hspacing.le_or_le
  simp only [Char.isDigit, Bool.and_eq_true, decide_eq_true_eq, ge_iff_le,
    UInt32.le_iff_toNat_le] at h
  change 48 ≤ c.toNat ∧ c.toNat ≤ 57 at h
  omega

/-! ### Mapping -/

/-- The tables have a row for each blank beyond ASCII. -/
private theorem mapOther_wideBlanks :
    ∀ code ∈ wideBlanks, forbidden.contains (Char.ofNat code) = true ∨
      (paired.row? (Char.ofNat code) = none ∧
        replacements.row? (Char.ofNat code) = some ⟨code, code, [0x20]⟩) := by
  have hread : ∃ lines lines' lines'', (forbidden = .ofChars lines ∧ paired = .ofChars lines' ∧
      replacements = .ofChars lines'') ∧ ∀ code ∈ wideBlanks,
        (CodeTable.ofChars lines).contains (Char.ofNat code) = true ∨
          ((CodeTable.ofChars lines').row? (Char.ofNat code) = none ∧
            (CodeTable.ofChars lines'').row? (Char.ofNat code) = some ⟨code, code, [0x20]⟩) := by
    iterate 3 apply Exists.intro
    apply And.intro
    · unfold forbidden paired replacements
      refine ⟨?_, ?_, ?_⟩
      all_goals
        repeat apply CodeTable.ofLines_cons
        exact CodeTable.ofLines_nil
    · decide +kernel
  obtain ⟨lines, lines', lines'', ⟨hforbidden, hpaired, hreplacements⟩, hrows⟩ := hread
  rwa [hforbidden, hpaired, hreplacements]

/-- Spacing is forbidden, or stands for one character up to the space. -/
private theorem mapChar_of_isSpacing (h : IsSpacing c) :
    mapChar c = none ∨ ∃ d, d.toNat ≤ 0x20 ∧ mapChar c = some [d] := by
  rcases h.le_or_mem_wideBlanks with hle | hwide
  · right
    have hlower : c.toLower = c := by
      rw [← Char.ofNat_toNat c]
      revert hle
      generalize c.toNat = code
      revert code
      decide
    refine ⟨c, hle, ?_⟩
    rw [mapChar, if_pos (by omega), hlower]
  · have hge := le_of_mem_wideBlanks c.toNat hwide
    have hrow := mapOther_wideBlanks c.toNat hwide
    rw [Char.ofNat_toNat] at hrow
    rw [mapChar, if_neg (by omega), mapOther]
    rcases hrow with hforbidden | ⟨hpaired, hreplaced⟩
    · left
      rw [if_pos hforbidden]
    · split
      · exact .inl rfl
      · right
        rw [hpaired, hreplaced]
        refine ⟨' ', by decide, ?_⟩
        simp

private theorem exists_mem_mapped (h : mapped cs = some domain) (hc : c ∈ cs)
    (hspacing : IsSpacing c) :
    ∃ d ∈ domain, d.toNat ≤ 0x20 := by
  obtain ⟨parts, hparts, rfl⟩ := Option.map_eq_some_iff.mp h
  obtain ⟨part, hpart, hmap⟩ := exists_mem_of_mapM hparts hc
  rcases mapChar_of_isSpacing hspacing with hnone | ⟨d, hle, hd⟩
  · cases hnone.symm.trans hmap
  · obtain rfl := Option.some.inj (hd.symm.trans hmap)
    exact ⟨d, mem_composed hle (List.mem_flatten_of_mem hpart List.mem_cons_self), hle⟩

/-! ### Labels -/

theorem mem_encode (h : c ∈ label) (hascii : Punycode.isAscii c = true) : c ∈ Punycode.encode label :=
  List.mem_append_left _ (List.mem_append_left _ (List.mem_filter.mpr ⟨h, hascii⟩))

/-- An ASCII character of a label is written, also if it is read from the form of another label. -/
theorem mem_writeLabel (h : plainLabel? label = some plain) (hc : c ∈ label)
    (hascii : Punycode.isAscii c = true) : c ∈ writeLabel plain := by
  unfold plainLabel? at h
  split at h
  next hmarker =>
    unfold ofForm? at h
    obtain ⟨-, h⟩ := Option.ite_none_left_eq_some.mp h
    obtain ⟨-, hplain⟩ := Option.filter_eq_some_iff.mp h
    simp only [Bool.and_eq_true, beq_iff_eq, List.any_eq_true, Bool.not_eq_true'] at hplain
    obtain ⟨⟨⟨d, hd, hbeyond⟩, -⟩, hform⟩ := hplain
    have hnot : ¬ plain.all Punycode.isAscii = true := by
      intro hall
      rw [List.all_eq_true.mp hall d hd] at hbeyond
      cases hbeyond
    have hlabel : marker ++ label.drop marker.length = label :=
      List.prefix_append_drop (List.isPrefixOf_iff_prefix.mp hmarker) |>.symm
    -- a form that is read is the one that its label has, so it is written again
    rw [writeLabel, if_neg hnot, hform, hlabel]
    exact hc
  next =>
    obtain ⟨-, heq⟩ := Option.ite_none_right_eq_some.mp h
    obtain rfl := Option.some.inj heq
    unfold writeLabel
    split
    · exact hc
    · exact List.mem_append_right _ (mem_encode hc hascii)

/-! ### Domains -/

theorem toAscii?_eq_some (h : toAscii? domain = some name) :
    ∃ whole labels, mapped domain = some whole ∧
      (pieces (· == '.') whole).mapM plainLabel? = some labels ∧
      name = joined ['.'] (labels.map writeLabel) ∧ ∀ c ∈ name, isHostChar c = true := by
  simp only [toAscii?, Option.bind_eq_bind, Option.bind_eq_some_iff] at h
  obtain ⟨whole, hwhole, labels, hlabels, h⟩ := h
  obtain ⟨hchecked, hname⟩ := Option.ite_none_right_eq_some.mp h
  obtain rfl := Option.some.inj hname
  rw [Bool.and_eq_true, List.all_eq_true] at hchecked
  exact ⟨whole, labels, hwhole, hlabels, rfl, hchecked.2⟩

/-- **No domain holds spacing.** -/
theorem not_isSpacing_of_toAscii? (h : toAscii? domain = some name) (hc : c ∈ domain) :
    ¬ IsSpacing c := by
  intro hspacing
  obtain ⟨whole, labels, hwhole, hlabels, rfl, hhost⟩ := toAscii?_eq_some h
  obtain ⟨d, hd, hle⟩ := exists_mem_mapped hwhole hc hspacing
  have hdot : (d == '.') = false := beq_false_of_ne fun heq => by
    subst heq
    revert hle
    decide
  obtain ⟨piece, hpiece, hdpiece⟩ : ∃ piece ∈ pieces (· == '.') whole, d ∈ piece :=
    exists_mem_pieces hd hdot
  obtain ⟨plain, hplain, hread⟩ := exists_mem_of_mapM hlabels hpiece
  have hascii : Punycode.isAscii d = true := decide_eq_true (by omega)
  have hname := hhost d (mem_joined (List.mem_map_of_mem hplain) (mem_writeLabel hread hdpiece hascii))
  simp only [isHostChar, Bool.and_eq_true, decide_eq_true_eq] at hname
  omega

end Deployer.Url.Domain
