import Deployer.Proofs.Json.Grammar

/-!
# Printed values

What is printed of a value spells it, in the compact style as in the indented one, if the numbers of the
value are integers (`Value.Integral.spells`). So whatever is read from a text however it is spelled is read
from what is printed.

The two styles differ in nothing but the blanks between the parts of a value (`Style.IsBlank`), and the
grammar allows blanks there. The induction is on the value; within an array or an object it goes along the
items or the members, of which only the first has no comma before it.
-/

namespace Deployer.Json

variable {style : Style} {bs : Bytes} {v : Value} {vs : List Value} {es : List (String × Value)}

/-- A style that puts nothing but blanks between the parts of a value. -/
structure Style.IsBlank (style : Style) : Prop where
  line : ∀ depth, Blanks ((style.line depth).flatMap String.utf8EncodeChar)
  afterColon : Blanks (style.afterColon.flatMap String.utf8EncodeChar)

private theorem blanks_flatMap {cs : List Char} (h : ∀ c ∈ cs, c = ' ' ∨ c = '\n') :
    Blanks (cs.flatMap String.utf8EncodeChar) := by
  intro b hb
  obtain ⟨c, hc, hb⟩ := List.mem_flatMap.mp hb
  rcases h c hc with rfl | rfl
  all_goals
    rw [utf8EncodeChar_of_lt (by decide), List.mem_singleton] at hb
    rw [hb]
    decide

theorem Style.isBlank_compact : Style.compact.IsBlank := ⟨fun _ => blanks_nil, blanks_nil⟩

theorem Style.isBlank_indented : Style.indented.IsBlank where
  line depth := blanks_flatMap fun c hc => by
    rcases List.mem_cons.mp hc with hline | hspace
    · exact .inr hline
    · exact .inl (List.eq_of_mem_replicate hspace)
  afterColon := blanks_flatMap fun c hc => .inl (List.mem_singleton.mp hc)

/-- A value whose numbers are integers of at most 64 bits. -/
inductive Value.Integral : Value → Prop
  | null : Integral .null
  | bool (value : Bool) : Integral (.bool value)
  | int {n : Int} (h : minInteger ≤ n ∧ n ≤ maxInteger) : Integral (.number (.int n))
  | string (text : String) : Integral (.string text)
  | array {vs : List Value} (h : ∀ v ∈ vs, Integral v) : Integral (.array vs)
  | object {es : List (String × Value)} (h : ∀ e ∈ es, Integral e.2) : Integral (.object es)

private theorem flatMap_writeString (text : String) :
    (writeString text).flatMap String.utf8EncodeChar =
      byte '"' :: ((text.toList.flatMap escapeChar).flatMap String.utf8EncodeChar ++ [byte '"']) := by
  simp (disch := decide) only [writeString, List.cons_append, List.flatMap_append, List.flatMap_nil,
    flatMap_utf8EncodeChar_cons]

private theorem flatMap_writeInt (n : Int) :
    (writeInt n).flatMap String.utf8EncodeChar = (writeInt n).map byte := by
  refine flatMap_utf8EncodeChar_of_lt fun c hc => ?_
  have hdigit {m : Nat} (h : c ∈ Nat.toDigits 10 m) : c.toNat < 0x80 := by
    have h := Nat.isDigit_of_mem_toDigits (by decide) (by decide) h
    simp only [Char.isDigit, Bool.and_eq_true, decide_eq_true_eq, ge_iff_le] at h
    exact Nat.lt_of_le_of_lt h.2 (by decide)
  unfold writeInt at hc
  split_ifs at hc
  · rcases List.mem_cons.mp hc with rfl | hc
    · decide
    · exact hdigit hc
  · exact hdigit hc

/-- Items that are printed one after another spell the rest of an array. -/
private theorem spells_writeItems (hstyle : style.IsBlank)
    (h : ∀ v ∈ vs, ∀ depth, Spells (.value v) ((v.write style depth).flatMap String.utf8EncodeChar))
    (hbs : Blanks bs) (depth : Nat) :
    Spells (.items false vs)
      ((writeItems style depth vs).flatMap String.utf8EncodeChar ++ (bs ++ [byte ']'])) := by
  induction vs with
  | nil => exact .noItem hbs
  | cons v vs ih =>
    obtain ⟨hv, hvs⟩ := List.forall_mem_cons.mp h
    have hitem := Spells.item (.next blanks_nil (hstyle.line depth)) (hv depth) (ih hvs)
    simp (disch := decide) only [writeItems, flatMap_utf8EncodeChar_cons, List.flatMap_append,
      List.append_assoc, List.cons_append, List.nil_append] at hitem ⊢
    exact hitem

/-- Members that are printed one after another spell the rest of an object. -/
private theorem spells_writeMembers (hstyle : style.IsBlank)
    (h : ∀ e ∈ es, ∀ depth,
      Spells (.value e.2) ((e.2.write style depth).flatMap String.utf8EncodeChar))
    (hbs : Blanks bs) (depth : Nat) :
    Spells (.members false es)
      ((writeMembers style depth es).flatMap String.utf8EncodeChar ++ (bs ++ [byte '\x7d'])) := by
  induction es with
  | nil => exact .noMember hbs
  | cons e es ih =>
    obtain ⟨key, v⟩ := e
    obtain ⟨hv, hes⟩ := List.forall_mem_cons.mp h
    have hmember := Spells.member (.next blanks_nil (hstyle.line depth))
      (spellsChars_flatMap_escapeChar key.toList) blanks_nil hstyle.afterColon (hv depth) (ih hes)
    simp (disch := decide) only [writeMembers, flatMap_writeString, flatMap_utf8EncodeChar_cons,
      List.flatMap_append, List.append_assoc, List.cons_append, List.nil_append] at hmember ⊢
    exact hmember

/-- **What is printed of a value spells it.** -/
theorem Value.Integral.spells (h : v.Integral) (hstyle : style.IsBlank) (depth : Nat) :
    Spells (.value v) ((v.write style depth).flatMap String.utf8EncodeChar) := by
  induction h generalizing depth with
  | null =>
    simp (disch := decide) only [Value.write, flatMap_utf8EncodeChar_cons, List.flatMap_nil]
    exact .null
  | bool value =>
    cases value with
    | true =>
      simp (disch := decide) only [Value.write, flatMap_utf8EncodeChar_cons, List.flatMap_nil]
      exact .true
    | false =>
      simp (disch := decide) only [Value.write, flatMap_utf8EncodeChar_cons, List.flatMap_nil]
      exact .false
  | int h =>
    rw [Value.write, Number.write, flatMap_writeInt]
    exact .number (.int h)
  | string text =>
    rw [Value.write, flatMap_writeString]
    exact .string (spellsChars_flatMap_escapeChar text.toList)
  | @array vs h ih =>
    cases vs with
    | nil =>
      simp (disch := decide) only [Value.write, flatMap_utf8EncodeChar_cons, List.flatMap_nil]
      exact .array (.noItem blanks_nil)
    | cons v vs =>
      -- the first item has only its line before it, each other one a comma and its line
      obtain ⟨hv, hvs⟩ := List.forall_mem_cons.mp ih
      have harray := Spells.array (Spells.item (.first (hstyle.line (depth + 1))) (hv (depth + 1))
        (spells_writeItems hstyle hvs (hstyle.line depth) (depth + 1)))
      simp (disch := decide) only [Value.write, flatMap_utf8EncodeChar_cons, List.flatMap_append,
        List.flatMap_nil, List.append_assoc] at harray ⊢
      exact harray
  | @object es h ih =>
    cases es with
    | nil =>
      simp (disch := decide) only [Value.write, flatMap_utf8EncodeChar_cons, List.flatMap_nil]
      exact .object (.noMember blanks_nil)
    | cons e es =>
      obtain ⟨key, v⟩ := e
      obtain ⟨hv, hes⟩ := List.forall_mem_cons.mp ih
      have hobject := Spells.object (Spells.member (.first (hstyle.line (depth + 1)))
        (spellsChars_flatMap_escapeChar key.toList) blanks_nil hstyle.afterColon (hv (depth + 1))
        (spells_writeMembers hstyle hes (hstyle.line depth) (depth + 1)))
      simp (disch := decide) only [Value.write, flatMap_writeString, flatMap_utf8EncodeChar_cons,
        List.flatMap_append, List.flatMap_nil, List.append_assoc, List.cons_append,
        List.nil_append] at hobject ⊢
      exact hobject

theorem Value.Integral.spells_compact (h : v.Integral) : Spells (.value v) (Text.bytes v.compact) := by
  rw [Text.bytes, Value.compact, String.toList_ofList]
  exact h.spells Style.isBlank_compact 0

theorem Value.Integral.spells_indented (h : v.Integral) :
    Spells (.value v) (Text.bytes v.indented) := by
  rw [Text.bytes, Value.indented, String.toList_ofList]
  exact h.spells Style.isBlank_indented 0

end Deployer.Json
