import Deployer.Text.Blank
import Deployer.Text.Pieces
import Mathlib.Data.List.DropRight
import Mathlib.Data.List.Infix

/-!
# What is cut off a text

Texts are cut by functions on lists of characters. Here it is said what they give without saying how a
list is searched: between separators (`sep_eq_false_of_mem_pieces`, `exists_mem_pieces`), at the last of
them (`cutLast_append`), at a word (`cutWord_eq_none`, `cutWord_append`), and when there is nothing to
trim (`trimChars_eq_self_iff`). Pieces that were joined are cut apart again (`pieces_joined`).
-/

namespace Deployer.Text

variable {c : Char} {cs p word before after : List Char} {sep : Char → Bool}

/-! ### Pieces -/

theorem pieces_ne_nil (sep : Char → Bool) (cs : List Char) : pieces sep cs ≠ [] := by
  cases cs with
  | nil => exact List.cons_ne_nil _ _
  | cons c cs =>
    unfold pieces
    split
    next => exact List.cons_ne_nil _ _
    next => split <;> exact List.cons_ne_nil _ _

/-- No piece holds a separator. -/
theorem sep_eq_false_of_mem_pieces (h : p ∈ pieces sep cs) (hc : c ∈ p) : sep c = false := by
  induction cs generalizing p with
  | nil =>
    rw [pieces, List.mem_singleton] at h
    rw [h] at hc
    cases hc
  | cons d cs ih =>
    unfold pieces at h
    split at h
    next =>
      rcases List.mem_cons.mp h with rfl | h
      · cases hc
      · exact ih h hc
    next hd =>
      have hd : sep d = false := Bool.eq_false_iff.mpr hd
      split at h
      next heq => exact absurd heq (pieces_ne_nil sep cs)
      next q qs heq =>
        rw [heq] at ih
        rcases List.mem_cons.mp h with rfl | h
        · rcases List.mem_cons.mp hc with rfl | hc
          · exact hd
          · exact ih List.mem_cons_self hc
        · exact ih (List.mem_cons_of_mem _ h) hc

/-- A piece is a part of what is cut. -/
theorem mem_of_mem_pieces (h : p ∈ pieces sep cs) (hc : c ∈ p) : c ∈ cs := by
  induction cs generalizing p with
  | nil =>
    rw [pieces, List.mem_singleton] at h
    exact h ▸ hc
  | cons d cs ih =>
    unfold pieces at h
    split at h
    next =>
      rcases List.mem_cons.mp h with rfl | h
      · cases hc
      · exact List.mem_cons_of_mem _ (ih h hc)
    next =>
      split at h
      next heq => exact absurd heq (pieces_ne_nil sep cs)
      next q qs heq =>
        rw [heq] at ih
        rcases List.mem_cons.mp h with rfl | h
        · rcases List.mem_cons.mp hc with rfl | hc
          · exact List.mem_cons_self
          · exact List.mem_cons_of_mem _ (ih List.mem_cons_self hc)
        · exact List.mem_cons_of_mem _ (ih (List.mem_cons_of_mem _ h) hc)

/-- What is no separator is in some piece. -/
theorem exists_mem_pieces (hc : c ∈ cs) (hsep : sep c = false) : ∃ p ∈ pieces sep cs, c ∈ p := by
  induction cs with
  | nil => cases hc
  | cons d cs ih =>
    unfold pieces
    split
    next hd =>
      rcases List.mem_cons.mp hc with rfl | hc
      · cases hsep.symm.trans hd
      · obtain ⟨p, hp, hcp⟩ := ih hc
        exact ⟨p, List.mem_cons_of_mem _ hp, hcp⟩
    next =>
      split
      next heq => exact absurd heq (pieces_ne_nil sep cs)
      next q qs heq =>
        rw [heq] at ih
        rcases List.mem_cons.mp hc with rfl | hc
        · exact ⟨c :: q, List.mem_cons_self, List.mem_cons_self⟩
        · obtain ⟨p, hp, hcp⟩ := ih hc
          rcases List.mem_cons.mp hp with rfl | hp
          · exact ⟨d :: p, List.mem_cons_self, List.mem_cons_of_mem _ hcp⟩
          · exact ⟨p, List.mem_cons_of_mem _ hp, hcp⟩

theorem mem_joined {ps : List (List Char)} (hp : p ∈ ps) (hc : c ∈ p) : c ∈ joined word ps := by
  fun_induction joined word ps with
  | case1 => cases hp
  | case2 q => exact List.mem_singleton.mp hp ▸ hc
  | case3 q r ps ih =>
    rw [List.append_assoc]
    rcases List.mem_cons.mp hp with rfl | hp
    · exact List.mem_append_left _ hc
    · exact List.mem_append_right _ (List.mem_append_right _ (ih hp))

theorem pieces_eq_singleton (h : ∀ c ∈ p, sep c = false) : pieces sep p = [p] := by
  induction p with
  | nil => rfl
  | cons c p ih =>
    obtain ⟨hc, hp⟩ := List.forall_mem_cons.mp h
    rw [pieces, hc, if_neg Bool.false_ne_true, ih hp]

/-- A text is cut at its first separator, and then at the others. -/
theorem pieces_append_cons (h : ∀ c ∈ p, sep c = false) (hc : sep c = true) (cs : List Char) :
    pieces sep (p ++ c :: cs) = p :: pieces sep cs := by
  induction p with
  | nil => rw [List.nil_append, pieces, if_pos hc]
  | cons d p ih =>
    obtain ⟨hd, hp⟩ := List.forall_mem_cons.mp h
    rw [List.cons_append, pieces, hd, if_neg Bool.false_ne_true, ih hp]

/-- Pieces that are joined are cut apart again. -/
theorem pieces_joined {ps : List (List Char)} (hc : sep c = true) (hne : ps ≠ [])
    (h : ∀ p ∈ ps, ∀ d ∈ p, sep d = false) : pieces sep (joined [c] ps) = ps := by
  fun_induction joined [c] ps with
  | case1 => exact absurd rfl hne
  | case2 p => exact pieces_eq_singleton (h p List.mem_cons_self)
  | case3 p q ps ih =>
    obtain ⟨hp, hps⟩ := List.forall_mem_cons.mp h
    rw [List.append_assoc, List.singleton_append, pieces_append_cons hp hc,
      ih (List.cons_ne_nil _ _) hps]

theorem of_mem_joined {ps : List (List Char)} (h : c ∈ joined word ps) :
    c ∈ word ∨ ∃ p ∈ ps, c ∈ p := by
  fun_induction joined word ps with
  | case1 => cases h
  | case2 p => exact .inr ⟨p, List.mem_cons_self, h⟩
  | case3 p q ps ih =>
    rcases List.mem_append.mp h with h | h
    · exact (List.mem_append.mp h).symm.imp_right fun h => ⟨p, List.mem_cons_self, h⟩
    · exact (ih h).imp_right fun ⟨r, hr, hc⟩ => ⟨r, List.mem_cons_of_mem _ hr, hc⟩

/-! ### One separator -/

theorem cutFirst_eq_none (h : ∀ c ∈ cs, sep c = false) : cutFirst sep cs = (cs, none) := by
  have hdrop : cs.dropWhile (!sep ·) = [] :=
    List.dropWhile_eq_nil_iff.mpr fun c hc => by rw [h c hc]; rfl
  rw [cutFirst, hdrop]

theorem cutFirst_append (hbefore : ∀ c ∈ before, sep c = false) (hc : sep c = true) :
    cutFirst sep (before ++ c :: after) = (before, some after) := by
  have hkept : ∀ d ∈ before, (!sep d) = true := fun d hd => by rw [hbefore d hd]; rfl
  have hdrop : (before ++ c :: after).dropWhile (!sep ·) = c :: after := by
    rw [List.dropWhile_append_of_pos hkept, List.dropWhile_cons_of_neg (by simp [hc])]
  have htake : (before ++ c :: after).takeWhile (!sep ·) = before := by
    rw [List.takeWhile_append_of_pos hkept, List.takeWhile_cons_of_neg (by simp [hc]),
      List.append_nil]
  rw [cutFirst, hdrop, htake]

theorem cutFirst_fst (sep : Char → Bool) (cs : List Char) :
    (cutFirst sep cs).1 = cs.takeWhile (!sep ·) := by
  unfold cutFirst
  split
  next hdrop =>
    have hsplit := List.takeWhile_append_dropWhile (p := (!sep ·)) (l := cs)
    rw [hdrop, List.append_nil] at hsplit
    exact hsplit.symm
  next => rfl

/-- A text holds no separator, or it has a last one. -/
theorem exists_last_sep (sep : Char → Bool) (cs : List Char) :
    (∀ c ∈ cs, sep c = false) ∨ ∃ before c after, cs = before ++ c :: after ∧ sep c = true ∧
      ∀ d ∈ after, sep d = false := by
  induction cs with
  | nil => exact .inl fun _ hc => nomatch hc
  | cons d cs ih =>
    rcases ih with hnone | ⟨before, c, after, rfl, hc, hafter⟩
    · cases hd : sep d with
      | false => exact .inl (List.forall_mem_cons.mpr ⟨hd, hnone⟩)
      | true => exact .inr ⟨[], d, cs, rfl, hd, hnone⟩
    · exact .inr ⟨d :: before, c, after, rfl, hc, hafter⟩

theorem cutLast_eq_none (h : ∀ c ∈ cs, sep c = false) : cutLast sep cs = none := by
  rw [cutLast, cutFirst_eq_none fun c hc => h c (List.mem_reverse.mp hc)]

theorem cutLast_append (hc : sep c = true) (hafter : ∀ d ∈ after, sep d = false) :
    cutLast sep (before ++ c :: after) = some (before, after) := by
  have hreverse : (before ++ c :: after).reverse = after.reverse ++ c :: before.reverse := by simp
  rw [cutLast, hreverse, cutFirst_append (fun d hd => hafter d (List.mem_reverse.mp hd)) hc]
  simp

/-! ### Words -/

/-- A word that does not occur is not found. -/
theorem cutWord_eq_none (h : ¬ word <:+: cs) : cutWord word cs = none := by
  induction cs with
  | nil =>
    have hword : word.isEmpty = false := by
      cases word with
      | nil => exact absurd List.nil_infix h
      | cons => rfl
    rw [cutWord, hword]
    rfl
  | cons c cs ih =>
    rw [List.infix_cons_iff, not_or, ← List.isPrefixOf_iff_prefix] at h
    rw [cutWord, if_neg h.1, ih h.2]
    rfl

/-- A word that is found is cut out. -/
theorem append_of_cutWord (h : cutWord word cs = some (before, after)) :
    cs = before ++ word ++ after := by
  induction cs generalizing before with
  | nil =>
    rw [cutWord] at h
    obtain ⟨hempty, heq⟩ := Option.ite_none_right_eq_some.mp h
    cases heq
    rw [List.isEmpty_iff.mp hempty]
    rfl
  | cons c cs ih =>
    rw [cutWord] at h
    split at h
    next hword =>
      cases h
      exact (List.prefix_append_drop (List.isPrefixOf_iff_prefix.mp hword))
    next =>
      obtain ⟨⟨front, back⟩, hcut, heq⟩ := Option.map_eq_some_iff.mp h
      cases heq
      exact congrArg (c :: ·) (ih hcut)

/-- A word is looked for behind a text that does not have its first character. -/
theorem cutWord_append (h : c ∉ before) :
    cutWord (c :: word) (before ++ cs) =
      (cutWord (c :: word) cs).map fun cut => (before ++ cut.1, cut.2) := by
  induction before with
  | nil => exact Option.map_id'.symm
  | cons d before ih =>
    rw [List.mem_cons, not_or] at h
    obtain ⟨hne, hbefore⟩ := h
    have hword : ¬ (c :: word).isPrefixOf (d :: (before ++ cs)) = true := by
      rw [List.isPrefixOf_iff_prefix, List.cons_prefix_cons]
      exact fun hword => hne hword.1
    rw [List.cons_append, cutWord, if_neg hword, ih hbefore, Option.map_map]
    rfl

/-- A word is found where its first character stands first. -/
theorem cutWord_append_append (h : c ∉ before) (after : List Char) :
    cutWord (c :: word) (before ++ c :: word ++ after) = some (before, after) := by
  have hword : (c :: word).isPrefixOf (c :: (word ++ after)) = true :=
    List.isPrefixOf_iff_prefix.mpr (List.prefix_append (c :: word) after)
  rw [List.append_assoc, cutWord_append h, List.cons_append, cutWord, if_pos hword, Option.map_some,
    List.append_nil, ← List.cons_append, List.drop_left]

/-! ### Blanks -/

theorem toList_trim (s : String) : (trim s).toList = trimChars s.toList := String.toList_ofList

theorem dropWhile_eq_self_iff_head? {blank : Char → Bool} :
    cs.dropWhile blank = cs ↔ ∀ c, cs.head? = some c → blank c = false := by
  cases cs with
  | nil => simp
  | cons d cs => simp [List.dropWhile_eq_self_iff]

theorem rdropWhile_eq_self_iff_getLast? {blank : Char → Bool} :
    cs.rdropWhile blank = cs ↔ ∀ c, cs.getLast? = some c → blank c = false := by
  rw [List.rdropWhile, List.reverse_eq_iff, dropWhile_eq_self_iff_head?, List.head?_reverse]

/-- What is cut off at the end of a text does not reach over a character that is kept. -/
theorem rdropWhile_append_cons {blank : Char → Bool} (h : blank c = false) (before after : List Char) :
    (before ++ c :: after).rdropWhile blank = before ++ c :: after.rdropWhile blank := by
  induction after using List.reverseRecOn with
  | nil => rw [List.rdropWhile_concat_neg _ _ _ (by simp [h]), List.rdropWhile_nil]
  | append_singleton after d ih =>
    have hassoc : before ++ c :: (after ++ [d]) = before ++ c :: after ++ [d] := by simp
    rw [hassoc, List.rdropWhile_concat, List.rdropWhile_concat]
    split
    · exact ih
    · exact hassoc.symm

/-- A text is trimmed if neither its first nor its last character is blank. -/
theorem trimChars_eq_self_iff : trimChars cs = cs ↔
    (∀ c, cs.head? = some c → isBlank c = false) ∧
      ∀ c, cs.getLast? = some c → isBlank c = false := by
  rw [← dropWhile_eq_self_iff_head?, ← rdropWhile_eq_self_iff_getLast?]
  have htrim : trimChars cs = (cs.dropWhile isBlank).rdropWhile isBlank := rfl
  constructor
  · intro h
    have hright := (List.rdropWhile_prefix isBlank (cs.dropWhile isBlank)).length_le
    have hleft := List.dropWhile_suffix (l := cs) isBlank
    -- what is trimmed on the right is no longer, so nothing was trimmed on the left
    have hlength : cs.length ≤ (cs.dropWhile isBlank).length := by
      rw [← htrim, h] at hright
      exact hright
    have hdrop : cs.dropWhile isBlank = cs := hleft.eq_of_length_le hlength
    rw [htrim, hdrop] at h
    exact ⟨hdrop, h⟩
  · rintro ⟨hdrop, hrdrop⟩
    rw [htrim, hdrop, hrdrop]

/-- What is put before a trimmed text keeps it trimmed. -/
theorem trimChars_append (h : trimChars cs = cs) (hne : cs ≠ [])
    (hbefore : trimChars before = before) : trimChars (before ++ cs) = before ++ cs := by
  obtain ⟨hhead, hlast⟩ := trimChars_eq_self_iff.mp h
  refine trimChars_eq_self_iff.mpr ⟨fun c hc => ?_, fun c hc => ?_⟩
  · cases before with
    | nil => exact hhead c hc
    | cons d before => exact (trimChars_eq_self_iff.mp hbefore).1 c hc
  · rw [List.getLast?_append_of_ne_nil _ hne] at hc
    exact hlast c hc

end Deployer.Text
