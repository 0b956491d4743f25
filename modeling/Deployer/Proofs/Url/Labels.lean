import Deployer.Proofs.Url.Addresses
import Deployer.Proofs.Url.Domain
import Deployer.Proofs.Url.Encoding
import Deployer.Proofs.Url.Punycode

/-!
# Domains that are written are read again

A domain is written as ASCII labels between dots, and each of them stands for the label that it was
written for. So the ASCII form of a domain has that form again (`toAscii?_of_isWritten`), with one
exception: a label beyond ASCII may have at most `maxLabelLength` characters, and its form may have more
than `maxFormLength` of them. Such a form is written, but it is not read.
-/

namespace Deployer.Url.Domain

open Text

variable {c : Char} {cs name label piece : List Char} {labels : List (List Char)}

/-! ### Characters of hosts -/

theorem isHostChar_iff : isHostChar c = true ↔
    (0x20 < c.toNat ∧ c.toNat < 0x7F) ∧ c.isUpper = false ∧ c ∉ delimiters := by
  simp only [isHostChar, Bool.and_eq_true, decide_eq_true_eq, Bool.not_eq_true', ← Bool.not_eq_true,
    List.contains_iff_mem, and_assoc]

theorem ne_of_isHostChar {d : Char} (h : isHostChar c = true) (hd : isHostChar d = false) : c ≠ d := by
  rintro rfl
  cases h.symm.trans hd

/-- A name in ASCII without capitals is mapped to itself. -/
theorem mapped_eq_self (h : ∀ c ∈ name, isHostChar c = true) : mapped name = some name := by
  have hmapM : name.mapM mapChar = some (name.map ([·])) := mapM_eq_some fun c hc => by
    obtain ⟨⟨-, hlt⟩, hupper, -⟩ := isHostChar_iff.mp (h c hc)
    have hlower : c.toLower = c :=
      forall_ascii (p := fun c => c.isUpper = false → c.toLower = c) (by decide) (by omega) hupper
    rw [mapChar, if_pos (by omega), hlower]
  have hascii : name.all (·.toNat < 0x80) = true :=
    List.all_eq_true.mpr fun c hc => by
      have hlt := (isHostChar_iff.mp (h c hc)).1.2
      exact decide_eq_true (by omega)
  have hflatten : (name.map ([·])).flatten = name := List.flatMap_singleton' name
  rw [mapped, hmapM, Option.map_some, hflatten, composed_of_ascii hascii]

/-! ### Labels -/

/-- What a label of a domain must be: valid, without a dot, and not marked if it is in ASCII. -/
structure IsLabel (label : List Char) : Prop where
  valid : isValid label = true
  dot : '.' ∉ label
  unmarked : label.all Punycode.isAscii = true → ¬ marker <+: label

/-- A label in ASCII has a **long form** if it is marked and its form is too long to be read. -/
def HasLongForm (label : List Char) : Prop :=
  marker <+: label ∧ maxFormLength < (label.drop marker.length).length

instance (label : List Char) : Decidable (HasLongForm label) := instDecidableAnd

/-- What a label of a mapped domain stands for is a label. -/
private theorem isLabel_of_plainLabel? (h : plainLabel? piece = some label) (hdot : '.' ∉ piece) :
    IsLabel label := by
  unfold plainLabel? at h
  split at h
  next hmarker =>
    unfold ofForm? at h
    obtain ⟨-, h⟩ := Option.ite_none_left_eq_some.mp h
    obtain ⟨-, hlabel⟩ := Option.filter_eq_some_iff.mp h
    simp only [Bool.and_eq_true, beq_iff_eq, List.any_eq_true, Bool.not_eq_true'] at hlabel
    obtain ⟨⟨⟨d, hd, hbeyond⟩, hvalid⟩, hform⟩ := hlabel
    refine ⟨hvalid, fun hmem => hdot ?_, fun hall => ?_⟩
    · have hform' : '.' ∈ piece.drop marker.length := hform ▸ mem_encode hmem (by decide)
      exact List.mem_of_mem_drop hform'
    · cases (List.all_eq_true.mp hall d hd).symm.trans hbeyond
  next hmarker =>
    obtain ⟨hvalid, heq⟩ := Option.ite_none_right_eq_some.mp h
    obtain rfl := Option.some.inj heq
    exact ⟨hvalid, hdot, fun _ => mt List.isPrefixOf_iff_prefix.mpr hmarker⟩

/-- **A written label stands for the label it was written for**, unless its form is too long. -/
theorem plainLabel?_writeLabel (h : IsLabel label) :
    plainLabel? (writeLabel label) =
      if HasLongForm (writeLabel label) then none else some label := by
  unfold writeLabel
  split
  next hascii =>
    have hmarker : ¬ marker <+: label := h.unmarked hascii
    rw [if_neg fun hlong => hmarker hlong.1, plainLabel?,
      if_neg (mt List.isPrefixOf_iff_prefix.mp hmarker), if_pos h.valid]
  next hascii =>
    have hmarker : marker <+: marker ++ Punycode.encode label := List.prefix_append _ _
    have hlong : HasLongForm (marker ++ Punycode.encode label) ↔
        maxFormLength < (Punycode.encode label).length := by
      rw [HasLongForm, List.drop_left, and_iff_right hmarker]
    have hbeyond : label.any (!Punycode.isAscii ·) = true := by
      simpa [List.any_eq_true, List.all_eq_true] using hascii
    rw [plainLabel?, if_pos (List.isPrefixOf_iff_prefix.mpr hmarker), ofForm?, List.drop_left,
      Punycode.decode?_encode]
    simp only [hlong, Option.filter_some, hbeyond, h.valid, beq_self_eq_true, Bool.and_self, if_true]

theorem dot_not_mem_writeLabel (h : '.' ∉ label) : '.' ∉ writeLabel label := by
  unfold writeLabel
  split
  · exact h
  · intro hmem
    rcases List.mem_append.mp hmem with hmem | hmem
    · exact absurd hmem (by decide)
    · rcases Punycode.of_mem_encode hmem with ⟨hmem, -⟩ | heq | ⟨d, hd, heq⟩
      · exact h hmem
      · exact absurd heq (by decide)
      · have hall : ∀ d < 36, '.' ≠ Punycode.digitChar d := by decide
        exact hall d hd heq

/-! ### Names -/

/-- What a domain in ASCII is made of. -/
structure Labels (labels : List (List Char)) (name : List Char) : Prop where
  ne_nil : labels ≠ []
  label : ∀ label ∈ labels, IsLabel label
  ordered : areOrdered labels = true
  joined : name = joined ['.'] (labels.map writeLabel)
  host : ∀ c ∈ name, isHostChar c = true

/-- A name is **written** if it is the ASCII form of some labels. -/
def IsWritten (name : List Char) : Prop := ∃ labels, Labels labels name

/-- What a domain is turned into is written label by label. -/
theorem isWritten_of_toAscii? {domain : List Char} (h : toAscii? domain = some name) :
    IsWritten name := by
  simp only [toAscii?, Option.bind_eq_bind, Option.bind_eq_some_iff] at h
  obtain ⟨whole, -, labels, hlabels, h⟩ := h
  obtain ⟨hchecked, hname⟩ := Option.ite_none_right_eq_some.mp h
  obtain rfl := Option.some.inj hname
  rw [Bool.and_eq_true, List.all_eq_true] at hchecked
  refine ⟨labels, ?_, fun label hlabel => ?_, hchecked.1, rfl, hchecked.2⟩
  · rintro rfl
    obtain ⟨piece, pieces, hpieces⟩ := List.exists_cons_of_ne_nil (pieces_ne_nil (· == '.') whole)
    obtain ⟨label, hlabel, -⟩ := exists_mem_of_mapM hlabels (hpieces ▸ List.mem_cons_self)
    cases hlabel
  · obtain ⟨piece, hpiece, hplain⟩ := exists_of_mem_mapM hlabels hlabel
    exact isLabel_of_plainLabel? hplain fun hdot =>
      absurd (sep_eq_false_of_mem_pieces hpiece hdot) (by decide)

theorem Labels.pieces_eq (h : Labels labels name) :
    pieces (· == '.') name = labels.map writeLabel := by
  rw [h.joined]
  refine pieces_joined rfl (mt List.map_eq_nil_iff.mp h.ne_nil) fun piece hpiece c hc => ?_
  obtain ⟨label, hlabel, rfl⟩ := List.mem_map.mp hpiece
  exact beq_false_of_ne fun heq => dot_not_mem_writeLabel (h.label label hlabel).dot (heq ▸ hc)

/-- A name **has a long form** if one of its labels has. -/
def NameHasLongForm (name : List Char) : Prop := ∃ label ∈ pieces (· == '.') name, HasLongForm label

instance (name : List Char) : Decidable (NameHasLongForm name) :=
  inferInstanceAs (Decidable (∃ label ∈ pieces (· == '.') name, HasLongForm label))

theorem toAscii?_eq (h : mapped cs = some name) : toAscii? cs =
    ((pieces (· == '.') name).mapM plainLabel?).bind fun labels =>
      if areOrdered labels && (Text.joined ['.'] (labels.map writeLabel)).all isHostChar then
        some (Text.joined ['.'] (labels.map writeLabel)) else none := by
  simp only [toAscii?, h, Option.bind_eq_bind, Option.bind_some]

/-- **A written name is its own ASCII form**, unless a label has a long form. -/
theorem toAscii?_of_isWritten (h : IsWritten name) :
    toAscii? name = if NameHasLongForm name then none else some name := by
  obtain ⟨labels, h⟩ := h
  rw [toAscii?_eq (mapped_eq_self h.host)]
  split
  next hlong =>
    obtain ⟨piece, hpiece, hlong⟩ := hlong
    obtain ⟨label, hlabel, rfl⟩ := List.mem_map.mp (h.pieces_eq ▸ hpiece)
    have hnone : plainLabel? (writeLabel label) = none := by
      rw [plainLabel?_writeLabel (h.label label hlabel), if_pos hlong]
    rw [mapM_eq_none hpiece hnone, Option.bind_none]
  next hshort =>
    have hread : (labels.map writeLabel).mapM plainLabel? = some labels := by
      refine mapM_map_eq_some fun label hlabel => ?_
      have hmem : writeLabel label ∈ pieces (· == '.') name :=
        h.pieces_eq ▸ List.mem_map_of_mem hlabel
      rw [plainLabel?_writeLabel (h.label label hlabel), if_neg fun hlong => hshort ⟨_, hmem, hlong⟩]
    have hhost : name.all isHostChar = true := List.all_eq_true.mpr h.host
    rw [h.pieces_eq, hread, Option.bind_some, ← h.joined, h.ordered, hhost]
    rfl

end Deployer.Url.Domain
