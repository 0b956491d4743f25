import Deployer.Text.Composition

/-!
# What composing keeps

A control character or a space is not part of any composed character: it is never taken apart, never
joined with what stands around it, and at most other characters change their places with it. So a
composed text holds each of them that the text holds (`mem_composed`).

That no composed character has such a part is read off the table of compositions. The table is a text;
the kernel reads it fast only when that text is given as a list of characters (`CodeTable.ofChars`).
-/

namespace Deployer.Text

variable {c d letter both : Char} {cs passed line : List Char} {lines : List String}
  {rest : List (List Char)} {table : CodeTable}

/-! ### Tables -/

namespace CodeTable

/-- The table that lines of words spell, each line a list of characters. -/
def ofChars (lines : List (List Char)) : CodeTable :=
  lines.flatMap fun line => (pieces (· == ' ') line).map CodeRow.ofWord

theorem ofLines_nil : ofLines [] = ofChars [] := rfl

theorem ofLines_cons (h : ofLines lines = ofChars rest) :
    ofLines (String.ofList line :: lines) = ofChars (line :: rest) := by
  rw [ofLines, ofChars, List.flatMap_cons, List.flatMap_cons, String.toList_ofList]
  exact congrArg _ h

/-- Nothing is found before the first row. -/
private theorem values?_eq_none (h : ∀ row ∈ table, c.toNat < row.first) :
    table.values? c = none := by
  rw [values?, row?, Option.map_eq_none_iff, Option.filter_eq_none_iff]
  intro row hrow hfirst
  have hlt := h row (List.mem_of_find?_eq_some hrow)
  have hle := of_decide_eq_true hfirst
  omega

end CodeTable

/-- The table of compositions names no character up to the space, and puts no unified ideograph together
with anything. -/
theorem compositions_bounded :
    ∀ row ∈ compositions, 0x20 < row.first ∧
      ∀ code ∈ row.values, 0x20 < code ∧ (code < 0x4E00 ∨ 0x9FFF < code) := by
  have hread : ∃ lines, compositions = .ofChars lines ∧
      ∀ row ∈ CodeTable.ofChars lines, 0x20 < row.first ∧
        ∀ code ∈ row.values, 0x20 < code ∧ (code < 0x4E00 ∨ 0x9FFF < code) := by
    apply Exists.intro
    apply And.intro
    · unfold compositions
      repeat apply CodeTable.ofLines_cons
      exact CodeTable.ofLines_nil
    · decide +kernel
  obtain ⟨lines, heq, hbounded⟩ := hread
  rwa [heq]

/-! ### Nothing to join -/

private theorem decomposed_of_le (h : c.toNat ≤ 0x20) : decomposed c = [c] := by
  have hsyllable : syllable? c = none := by
    rw [syllable?, if_neg (by omega)]
  have hvalues : compositions.values? c = none :=
    CodeTable.values?_eq_none fun row hrow =>
      Nat.lt_of_le_of_lt h (compositions_bounded row hrow).1
  rw [decomposed, hsyllable, hvalues]

theorem find?_compositions_eq_none {codes : List Nat} (hmem : c.toNat ∈ codes)
    (h : c.toNat ≤ 0x20 ∨ 0x4E00 ≤ c.toNat ∧ c.toNat ≤ 0x9FFF) :
    compositions.find? (·.values == codes) = none := by
  refine List.find?_eq_none.mpr fun row hrow heq => ?_
  have hbounds := (compositions_bounded row hrow).2 c.toNat (beq_iff_eq.mp heq ▸ hmem)
  omega

/-- Nothing is joined with a character before a control character or a space. -/
private theorem composite?_eq_none_right (h : c.toNat ≤ 0x20) (a : Char) :
    composite? a c = none := by
  have hsyllable : syllableOf? a c = none := by
    have hvowel : vowel? c = none := by rw [vowel?, if_neg (by omega)]
    have htrailing : trailing? c = none := by rw [trailing?, if_neg (by omega)]
    rw [syllableOf?, hvowel, htrailing]
    cases leading? a <;> cases syllable? a <;> rfl
  rw [composite?, hsyllable]
  dsimp only
  have hmem : c.toNat ∈ (decomposed a ++ [c]).map Char.toNat :=
    List.mem_map_of_mem (List.mem_append_right _ List.mem_cons_self)
  rw [find?_compositions_eq_none hmem (.inl h)]
  rfl

private theorem composite?_eq_none_left (h : c.toNat ≤ 0x20) (b : Char) :
    composite? c b = none := by
  have hsyllable : syllableOf? c b = none := by
    have hleading : leading? c = none := by rw [leading?, if_neg (by omega)]
    have hsyllable : syllable? c = none := by rw [syllable?, if_neg (by omega)]
    rw [syllableOf?, hleading, hsyllable]
  rw [composite?, hsyllable, decomposed_of_le h]
  dsimp only
  have hmem : c.toNat ∈ ([c] ++ [b]).map Char.toNat := List.mem_map_of_mem List.mem_cons_self
  rw [find?_compositions_eq_none hmem (.inl h)]
  rfl

/-! ### Nothing to put together -/

/-- Characters that are no marks stay in their order. -/
private theorem orderMarks_eq_self (h : ∀ c ∈ cs, combiningClass c = 0) : orderMarks cs = cs := by
  induction cs with
  | nil => rfl
  | cons c cs ih =>
    obtain ⟨-, hcs⟩ := List.forall_mem_cons.mp h
    rw [orderMarks, ih hcs]
    cases cs with
    | nil => rfl
    | cons d cs => rw [placeMark, hcs d List.mem_cons_self, if_neg fun h => Nat.lt_irrefl 0 h.1]

/-- Characters that are no marks and that no character stands for stay apart. -/
private theorem joinFrom_eq_self (horder : ∀ c ∈ cs, combiningClass c = 0)
    (hjoin : ∀ c ∈ letter :: cs, ∀ d ∈ cs, composite? c d = none) :
    joinFrom letter [] cs = letter :: cs := by
  induction cs generalizing letter with
  | nil => rfl
  | cons c cs ih =>
    obtain ⟨hc, horder⟩ := List.forall_mem_cons.mp horder
    have hnone : (if ([] : List Char).head?.all fun mark => combiningClass mark < combiningClass c then
        composite? letter c else none) = none := by
      rw [hjoin letter List.mem_cons_self c List.mem_cons_self, ite_self]
    have hrest := ih horder fun c hc d hd =>
      hjoin c (List.mem_cons_of_mem _ hc) d (List.mem_cons_of_mem _ hd)
    rw [joinFrom, hnone]
    dsimp only
    rw [if_pos hc, hrest]
    rfl

/-- A text whose characters are neither marks that have an order, nor taken apart, nor joined is
composed. -/
theorem composed_eq_self (hwhole : ∀ c ∈ cs, decomposed c = [c])
    (horder : ∀ c ∈ cs, combiningClass c = 0) (hjoin : ∀ c ∈ cs, ∀ d ∈ cs, composite? c d = none) :
    composed cs = cs := by
  have hdecomposed : cs.flatMap decomposed = cs := by
    rw [List.flatMap_def, List.map_congr_left hwhole, ← List.flatMap_def, List.flatMap_singleton']
  unfold composed
  split
  next => rfl
  next =>
    rw [hdecomposed, orderMarks_eq_self horder]
    cases cs with
    | nil => rfl
    | cons c cs =>
      obtain ⟨hc, horder⟩ := List.forall_mem_cons.mp horder
      rw [joinMarks, if_pos hc,
        joinFrom_eq_self horder fun c hc d hd => hjoin c hc d (List.mem_cons_of_mem _ hd)]

/-! ### What is kept -/

private theorem mem_placeMark : d ∈ placeMark c cs ↔ d = c ∨ d ∈ cs := by
  induction cs with
  | nil => exact List.mem_cons
  | cons e cs ih =>
    unfold placeMark
    split
    · rw [List.mem_cons, ih, List.mem_cons, or_left_comm]
    · exact List.mem_cons

private theorem mem_orderMarks : d ∈ orderMarks cs ↔ d ∈ cs := by
  induction cs with
  | nil => rfl
  | cons c cs ih => rw [orderMarks, mem_placeMark, ih, List.mem_cons]

/-- What is joined are other characters. -/
private theorem mem_joinFrom (hle : c.toNat ≤ 0x20) (h : c = letter ∨ c ∈ passed ∨ c ∈ cs) :
    c ∈ joinFrom letter passed cs := by
  induction cs generalizing letter passed with
  | nil =>
    rcases h with rfl | h | h
    · exact List.mem_cons_self
    · exact List.mem_cons_of_mem _ (List.mem_reverse.mpr h)
    · cases h
  | cons d cs ih =>
    unfold joinFrom
    dsimp only
    split
    next both hboth =>
      -- neither the letter nor what is joined with it is the character that is to be kept
      obtain ⟨-, hboth⟩ := Option.ite_none_right_eq_some.mp hboth
      rcases h with rfl | h | h
      · cases (composite?_eq_none_left hle d).symm.trans hboth
      · exact ih (.inr (.inl h))
      · rcases List.mem_cons.mp h with rfl | h
        · cases (composite?_eq_none_right hle letter).symm.trans hboth
        · exact ih (.inr (.inr h))
    next =>
      split
      · rcases h with rfl | h | h
        · exact List.mem_append_left _ List.mem_cons_self
        · exact List.mem_append_left _ (List.mem_cons_of_mem _ (List.mem_reverse.mpr h))
        · rcases List.mem_cons.mp h with rfl | h
          · exact List.mem_append_right _ (ih (.inl rfl))
          · exact List.mem_append_right _ (ih (.inr (.inr h)))
      · rcases h with rfl | h | h
        · exact ih (.inl rfl)
        · exact ih (.inr (.inl (List.mem_cons_of_mem _ h)))
        · rcases List.mem_cons.mp h with rfl | h
          · exact ih (.inr (.inl List.mem_cons_self))
          · exact ih (.inr (.inr h))

private theorem mem_joinMarks (hle : c.toNat ≤ 0x20) (h : c ∈ cs) : c ∈ joinMarks cs := by
  induction cs with
  | nil => cases h
  | cons d cs ih =>
    unfold joinMarks
    split
    · exact mem_joinFrom hle ((List.mem_cons.mp h).imp_right .inr)
    · exact (List.mem_cons.mp h).elim (· ▸ List.mem_cons_self) fun h => List.mem_cons_of_mem _ (ih h)

/-- **What composing keeps**: control characters and spaces. -/
theorem mem_composed (hle : c.toNat ≤ 0x20) (h : c ∈ cs) : c ∈ composed cs := by
  unfold composed
  split
  · exact h
  · refine mem_joinMarks hle (mem_orderMarks.mpr (List.mem_flatMap.mpr ⟨c, h, ?_⟩))
    rw [decomposed_of_le hle]
    exact List.mem_cons_self

end Deployer.Text
