import Deployer.Json.Printer
import Deployer.Proofs.Json.Skip
import Deployer.Proofs.Text.Bytes

/-!
# Spellings of strings

A string may be spelled in many ways. `SpellsChars` lists them, character by character: as it is, by a
short escape, by the number of its unit, or by two surrogates. Each is read as the string that it spells
(`readString_of_spells`), with one lemma for each way to begin.

A reader sees bytes and not characters, so a character that is spelled as it is may take up to four steps
of the reader; none of them is mistaken for the quote or for an escape (`stringBody_append`). The way in
which strings are printed is one of the spellings (`spellsChars_flatMap_escapeChar`).
-/

namespace Deployer.Json

variable {s t bs rest : Bytes} {b : UInt8} {c : Char} {cs : List Char}

/-! ### Blanks -/

/-- Bytes that are all blanks. -/
def Blanks (bs : Bytes) : Prop := ∀ b ∈ bs, isBlank b = true

theorem blanks_nil : Blanks [] := fun _ h => nomatch h

theorem skipBlanks_append (h : Blanks bs) (s : Bytes) : skipBlanks (bs ++ s) = skipBlanks s :=
  List.dropWhile_append_of_pos h

theorem skipBlanks_cons (h : isBlank b = false) (s : Bytes) : skipBlanks (b :: s) = b :: s :=
  List.dropWhile_cons_of_neg (Bool.eq_false_iff.mp h)

theorem skipBlanks_append_cons (h : Blanks bs) (hb : isBlank b = false) (s : Bytes) :
    skipBlanks (bs ++ b :: s) = b :: s := by
  rw [skipBlanks_append h, skipBlanks_cons hb]

/-! ### Strings -/

/-- The texts that spell characters between quotes: a character from U+0020 on as it is, unless it is a
quote or a backslash; a short escape; an escaped unit that is no surrogate; and a pair of surrogates. -/
inductive SpellsChars : List Char → Bytes → Prop
  | nil : SpellsChars [] []
  | plain {c : Char} {cs : List Char} {t : Bytes} (hprint : 0x20 ≤ c.toNat) (hquote : c ≠ '"')
    (hslash : c ≠ '\\') (h : SpellsChars cs t) : SpellsChars (c :: cs) (String.utf8EncodeChar c ++ t)
  | short {e b : UInt8} {cs : List Char} {t : Bytes} (he : simpleEscape? e = some b)
    (h : SpellsChars cs t) : SpellsChars (Char.ofNat b.toNat :: cs) (byte '\\' :: e :: t)
  | unit {h₁ h₂ h₃ h₄ : UInt8} {n : Nat} {cs : List Char} {t : Bytes}
    (hn : hexUnit? h₁ h₂ h₃ h₄ = some n) (hlow : isLowSurrogate n = false)
    (hhigh : isHighSurrogate n = false) (h : SpellsChars cs t) :
    SpellsChars (Char.ofNat n :: cs) (byte '\\' :: byte 'u' :: h₁ :: h₂ :: h₃ :: h₄ :: t)
  | pair {h₁ h₂ h₃ h₄ l₁ l₂ l₃ l₄ : UInt8} {high low : Nat} {cs : List Char} {t : Bytes}
    (hn : hexUnit? h₁ h₂ h₃ h₄ = some high) (hhigh : isHighSurrogate high = true)
    (hm : hexUnit? l₁ l₂ l₃ l₄ = some low) (hlow : isLowSurrogate low = true)
    (h : SpellsChars cs t) :
    SpellsChars (pairedChar high low :: cs) (byte '\\' :: byte 'u' :: h₁ :: h₂ :: h₃ :: h₄ ::
      byte '\\' :: byte 'u' :: l₁ :: l₂ :: l₃ :: l₄ :: t)

private theorem stringBody_quote (s : Bytes) : stringBody (byte '"' :: s) = .ok ([], s) := by
  rw [stringBody.eq_def]
  exact if_pos rfl

private theorem stringBody_plain (hquote : b ≠ byte '"') (hslash : b ≠ byte '\\')
    (hcontrol : ¬ b < 0x20) (s : Bytes) : stringBody (b :: s) = prepend [b] (stringBody s) := by
  rw [stringBody.eq_def]
  exact (if_neg hquote).trans ((if_neg hslash).trans (if_neg hcontrol))

private theorem stringBody_short {e : UInt8} (he : simpleEscape? e = some b) (s : Bytes) :
    stringBody (byte '\\' :: e :: s) = prepend [b] (stringBody s) := by
  have hu : e ≠ byte 'u' := by
    rintro rfl
    cases he
  rw [stringBody.eq_def]
  simp only [if_neg (show byte '\\' ≠ byte '"' by decide), if_true, if_neg hu, he]

private theorem stringBody_unit {h₁ h₂ h₃ h₄ : UInt8} {n : Nat} (hn : hexUnit? h₁ h₂ h₃ h₄ = some n)
    (hlow : isLowSurrogate n = false) (hhigh : isHighSurrogate n = false) (s : Bytes) :
    stringBody (byte '\\' :: byte 'u' :: h₁ :: h₂ :: h₃ :: h₄ :: s) =
      prepend (String.utf8EncodeChar (Char.ofNat n)) (stringBody s) := by
  rw [stringBody.eq_def]
  simp [if_neg (show byte '\\' ≠ byte '"' by decide), hn, hlow, hhigh]

private theorem stringBody_pair {h₁ h₂ h₃ h₄ l₁ l₂ l₃ l₄ : UInt8} {high low : Nat}
    (hn : hexUnit? h₁ h₂ h₃ h₄ = some high) (hhigh : isHighSurrogate high = true)
    (hm : hexUnit? l₁ l₂ l₃ l₄ = some low) (hlow : isLowSurrogate low = true) (s : Bytes) :
    stringBody (byte '\\' :: byte 'u' :: h₁ :: h₂ :: h₃ :: h₄ ::
        byte '\\' :: byte 'u' :: l₁ :: l₂ :: l₃ :: l₄ :: s) =
      prepend (String.utf8EncodeChar (pairedChar high low)) (stringBody s) := by
  have hhigh' : isLowSurrogate high = false := by
    simp only [isHighSurrogate, isLowSurrogate, Bool.and_eq_true, Bool.and_eq_false_iff,
      decide_eq_true_eq, decide_eq_false_iff_not] at hhigh ⊢
    omega
  rw [stringBody.eq_def]
  simp [if_neg (show byte '\\' ≠ byte '"' by decide), hn, hhigh, hhigh', hm, hlow]

theorem prepend_append (bs cs : Bytes) (r : Except Refusal (Bytes × Bytes)) :
    prepend (bs ++ cs) r = prepend bs (prepend cs r) := by
  cases r <;> simp [prepend, Except.map]

/-- Bytes that stand for themselves. -/
theorem stringBody_append (hbs : ∀ b ∈ bs, b ≠ byte '"' ∧ b ≠ byte '\\' ∧ ¬ b < 0x20) (s : Bytes) :
    stringBody (bs ++ s) = prepend bs (stringBody s) := by
  induction bs with
  | nil => cases h : stringBody s <;> simp [prepend, Except.map, h]
  | cons b bs ih =>
    obtain ⟨⟨hquote, hslash, hcontrol⟩, hbs⟩ := List.forall_mem_cons.mp hbs
    rw [List.cons_append, stringBody_plain hquote hslash hcontrol, ih hbs, ← prepend_append]
    rfl

/-- The bytes of a character stand for themselves, unless it is a control character, a quote or a
backslash. -/
private theorem plain_of_mem_utf8EncodeChar {c : Char} (hprint : 0x20 ≤ c.toNat) (hquote : c ≠ '"')
    (hslash : c ≠ '\\') (hb : b ∈ String.utf8EncodeChar c) :
    b ≠ byte '"' ∧ b ≠ byte '\\' ∧ ¬ b < 0x20 := by
  rw [UInt8.lt_iff_toNat_lt]
  rcases Utf8.mem_utf8EncodeChar hb with ⟨hascii, rfl⟩ | hb
  · refine ⟨mt (eq_of_byte_eq hascii (by decide)) hquote, mt (eq_of_byte_eq hascii (by decide)) hslash,
      Nat.not_lt.mpr ?_⟩
    have hbyte : (byte c).toNat = c.toNat % 256 := UInt8.toNat_ofNat'
    rw [hbyte, Nat.mod_eq_of_lt (by omega)]
    exact hprint
  · refine ⟨?_, ?_, Nat.not_lt.mpr (Nat.le_trans (by decide) hb)⟩ <;> rintro rfl <;> revert hb <;> decide

private theorem utf8EncodeChar_of_simpleEscape? {e : UInt8} (h : simpleEscape? e = some b) :
    String.utf8EncodeChar (Char.ofNat b.toNat) = [b] := by
  unfold simpleEscape? at h
  split_ifs at h with hquote hslash hsolidus <;> cases h
  · rw [hquote]
    decide
  · rw [hslash]
    decide
  · rw [hsolidus]
    decide
  all_goals decide

private theorem stringBody_of_spells {cs : List Char} (h : SpellsChars cs t) (rest : Bytes) :
    stringBody (t ++ byte '"' :: rest) = .ok (cs.flatMap String.utf8EncodeChar, rest) := by
  induction h with
  | nil => exact stringBody_quote rest
  | plain hprint hquote hslash h ih =>
    rw [List.append_assoc, List.flatMap_cons,
      stringBody_append fun b => plain_of_mem_utf8EncodeChar hprint hquote hslash, ih]
    rfl
  | short he h ih =>
    rw [List.cons_append, List.cons_append, stringBody_short he, ih, List.flatMap_cons,
      utf8EncodeChar_of_simpleEscape? he]
    rfl
  | unit hn hlow hhigh h ih =>
    simp only [List.cons_append, stringBody_unit hn hlow hhigh, ih]
    rfl
  | pair hn hhigh hm hlow h ih =>
    simp only [List.cons_append, stringBody_pair hn hhigh hm hlow, ih]
    rfl

/-- **A string is read as what it spells.** -/
theorem readString_of_spells {text : String} (h : SpellsChars text.toList t) (rest : Bytes) :
    readString (t ++ byte '"' :: rest) = .ok (text, rest) := by
  simp only [readString, stringBody_of_spells h, bind, Except.bind,
    Utf8.decode?_flatMap_utf8EncodeChar, String.ofList_toList]

/-! ### Printed strings -/

private theorem hexUnit?_of_control : ∀ n < 0x20,
    hexUnit? (byte '0') (byte '0') (byte (if n < 0x10 then '0' else '1'))
      (byte (Nat.digitChar (n % 16))) = some n := by
  decide

theorem SpellsChars.escapeShort {e : Char} (h : SpellsChars cs t)
    (he : simpleEscape? (byte e) = some b) (hascii : e.toNat < 0x80) (hc : c = Char.ofNat b.toNat) :
    SpellsChars (c :: cs) (['\\', e].flatMap String.utf8EncodeChar ++ t) := by
  rw [flatMap_utf8EncodeChar_of_lt (by simp [hascii]), hc]
  exact .short he h

theorem SpellsChars.escapeUnit (h : SpellsChars cs t) (hc : c.toNat < 0x20) :
    SpellsChars (c :: cs) (['\\', 'u', '0', '0', if c.toNat < 0x10 then '0' else '1',
      Nat.digitChar (c.toNat % 16)].flatMap String.utf8EncodeChar ++ t) := by
  have hascii : ∀ n < 0x20, (if n < 0x10 then '0' else '1').toNat < 0x80 ∧
      (Nat.digitChar (n % 16)).toNat < 0x80 := by decide
  have hlow : isLowSurrogate c.toNat = false := by
    simp only [isLowSurrogate, Bool.and_eq_false_iff, decide_eq_false_iff_not]
    omega
  have hhigh : isHighSurrogate c.toNat = false := by
    simp only [isHighSurrogate, Bool.and_eq_false_iff, decide_eq_false_iff_not]
    omega
  have hunit := SpellsChars.unit (hexUnit?_of_control c.toNat hc) hlow hhigh h
  rw [Char.ofNat_toNat] at hunit
  rw [flatMap_utf8EncodeChar_of_lt (by simp [hascii c.toNat hc])]
  exact hunit

/-- A character is spelled as it is printed within a string. -/
theorem SpellsChars.escape (h : SpellsChars cs t) (c : Char) :
    SpellsChars (c :: cs) ((escapeChar c).flatMap String.utf8EncodeChar ++ t) := by
  have hcontrol {n : Nat} (hn : c.toNat = n) : c = Char.ofNat n := hn ▸ (Char.ofNat_toNat c).symm
  simp only [escapeChar, beq_iff_eq]
  by_cases hquote : c = '"'
  · rw [if_pos hquote]
    exact h.escapeShort rfl (by decide) hquote
  by_cases hslash : c = '\\'
  · rw [if_neg hquote, if_pos hslash]
    exact h.escapeShort rfl (by decide) hslash
  by_cases hprint : 0x20 ≤ c.toNat
  · rw [if_neg hquote, if_neg hslash, if_pos hprint, List.flatMap_singleton]
    exact .plain hprint hquote hslash h
  · rw [if_neg hquote, if_neg hslash, if_neg hprint]
    split
    next hb => exact h.escapeShort rfl (by decide) (hcontrol hb)
    split
    next ht => exact h.escapeShort rfl (by decide) (hcontrol ht)
    split
    next hn => exact h.escapeShort rfl (by decide) (hcontrol hn)
    split
    next hf => exact h.escapeShort rfl (by decide) (hcontrol hf)
    split
    next hr => exact h.escapeShort rfl (by decide) (hcontrol hr)
    next => exact h.escapeUnit (Nat.not_le.mp hprint)

theorem spellsChars_flatMap_escapeChar (cs : List Char) :
    SpellsChars cs ((cs.flatMap escapeChar).flatMap String.utf8EncodeChar) := by
  induction cs with
  | nil => exact .nil
  | cons c cs ih =>
    rw [List.flatMap_cons, List.flatMap_append]
    exact ih.escape c

end Deployer.Json
