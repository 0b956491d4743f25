import Deployer.Proofs.Text.Bytes
import Deployer.Url.PercentCoding
import Mathlib.Data.List.Basic

/-!
# What percent-encoding keeps

A character is written as it is, or as the bytes of its UTF-8 form, each as a percent sign and two
hexadecimal digits. So what is written holds a character of its own only if the text holds it
(`mem_percentEncode`); and if percent signs are encoded too, then decoding gives the text again
(`percentDecode_percentEncode`); if they are not, then what is encoded is not encoded once more
(`encoded_percentEncode`). A character that can be no part of an escape is kept by decoding
(`mem_of_percentDecodeText?`).
-/

namespace Deployer.Url

variable {set : EncodeSet} {c : Char} {cs ds : List Char} {b : UInt8} {s : Bytes}

/-! ### UTF-8 -/

/-- The UTF-8 form determines a text. -/
theorem eq_of_flatMap_utf8EncodeChar_eq
    (h : cs.flatMap String.utf8EncodeChar = ds.flatMap String.utf8EncodeChar) : cs = ds := by
  refine String.ofList_injective (String.toByteArray_inj.mp ?_)
  rw [String.toByteArray_ofList, String.toByteArray_ofList, List.utf8Encode, List.utf8Encode, h]

/-! ### What is written -/

/-- The hexadecimal digit of a number, as it is written. -/
def hexDigit (n : Nat) : Char := if n < 10 then Char.ofNat (0x30 + n) else Char.ofNat (0x37 + n)

/-- An encoded byte is a percent sign and two digits. -/
private theorem encodeByte_eq (b : UInt8) :
    encodeByte b = ['%', hexDigit (b.toNat / 16), hexDigit (b.toNat % 16)] := rfl

private theorem hexDigit_isAlphanum : ∀ n < 16, (hexDigit n).isAlphanum := by decide

private theorem utf8EncodeChar_hexDigit :
    ∀ n < 16, String.utf8EncodeChar (hexDigit n) = [byte (hexDigit n)] := by decide

private theorem hexValue?_hexDigit : ∀ n < 16, hexValue? (byte (hexDigit n)) = some n := by decide

private theorem div_lt_sixteen (b : UInt8) : b.toNat / 16 < 16 := by
  have hb := b.toNat_lt
  omega

private theorem mod_lt_sixteen (b : UInt8) : b.toNat % 16 < 16 := Nat.mod_lt _ (by decide)

/-- A character is kept, or all of its bytes are encoded. -/
theorem encodeChar_cases (set : EncodeSet) (c : Char) :
    (encodeChar set c = [c] ∧ c.toNat < 0x80 ∧ set c = false) ∨
      encodeChar set c = (String.utf8EncodeChar c).flatMap encodeByte := by
  unfold encodeChar
  split
  next h =>
    simp only [Bool.and_eq_true, decide_eq_true_eq, Bool.not_eq_true'] at h
    exact .inl ⟨rfl, h⟩
  next => exact .inr rfl

theorem encodeChar_ne_nil (set : EncodeSet) (c : Char) : encodeChar set c ≠ [] := by
  rcases encodeChar_cases set c with ⟨heq, -⟩ | heq
  · exact heq ▸ List.cons_ne_nil _ _
  · obtain ⟨b, bs, hbytes, -⟩ := Utf8.exists_utf8EncodeChar_eq_cons c
    rw [heq, hbytes]
    exact List.cons_ne_nil _ _

/-- A byte is written with a percent sign, letters and digits. -/
private theorem mem_encodeByte (h : c ∈ encodeByte b) : c = '%' ∨ c.isAlphanum := by
  rw [encodeByte_eq] at h
  simp only [List.mem_cons, List.not_mem_nil, or_false] at h
  rcases h with rfl | rfl | rfl
  · exact .inl rfl
  · exact .inr (hexDigit_isAlphanum _ (div_lt_sixteen b))
  · exact .inr (hexDigit_isAlphanum _ (mod_lt_sixteen b))

/-- **What is written** is a percent sign, a letter or digit, or a character of the text. -/
theorem mem_percentEncode (h : c ∈ percentEncode set cs) :
    c = '%' ∨ c.isAlphanum ∨ (c ∈ cs ∧ set c = false) := by
  obtain ⟨d, hd, hc⟩ := List.mem_flatMap.mp h
  rcases encodeChar_cases set d with ⟨heq, -, hset⟩ | heq
  · rw [heq, List.mem_singleton] at hc
    exact .inr (.inr ⟨hc ▸ hd, hc ▸ hset⟩)
  · rw [heq] at hc
    obtain ⟨b, -, hb⟩ := List.mem_flatMap.mp hc
    rcases mem_encodeByte hb with hpercent | halnum
    · exact .inl hpercent
    · exact .inr (.inl halnum)

/-! ### What is encoded already -/

/-- A text is **encoded** if it has only characters that need not be. -/
def Encoded (set : EncodeSet) (cs : List Char) : Prop := ∀ c ∈ cs, c.toNat < 0x80 ∧ set c = false

/-- A set **spares escapes** if it has neither the percent sign nor letters or digits. -/
def EncodeSet.SparesEscapes (set : EncodeSet) : Prop :=
  set '%' = false ∧ ∀ c : Char, c.isAlphanum = true → set c = false

theorem toNat_lt_of_isAlphanum (h : c.isAlphanum = true) : c.toNat < 0x80 := by
  have hbelow {last : Char} (hle : c.val ≤ last.val) (hlast : last.toNat < 0x80) : c.toNat < 0x80 :=
    Nat.lt_of_le_of_lt (UInt32.le_iff_toNat_le.mp hle) hlast
  rcases Bool.or_eq_true_iff.mp h with halpha | hdigit
  · rcases Bool.or_eq_true_iff.mp halpha with hupper | hlower
    · exact hbelow (of_decide_eq_true hupper).2 (by decide)
    · exact hbelow (of_decide_eq_true (Bool.and_eq_true_iff.mp hlower).2) (by decide)
  · exact hbelow (of_decide_eq_true (Bool.and_eq_true_iff.mp hdigit).2) (by decide)

/-- What holds of the ASCII characters by their numbers. -/
theorem forall_ascii {p : Char → Prop} (h : ∀ n < 0x80, p (Char.ofNat n)) (hc : c.toNat < 0x80) :
    p c := by
  have hp := h c.toNat hc
  rwa [Char.ofNat_toNat] at hp

theorem sparesEscapes_iff : set.SparesEscapes ↔
    set '%' = false ∧ ∀ n < 0x80, (Char.ofNat n).isAlphanum = true → set (Char.ofNat n) = false :=
  and_congr_right fun _ => ⟨fun h n _ => h (Char.ofNat n), fun h _ halnum =>
    forall_ascii (p := fun c => c.isAlphanum = true → set c = false) h (toNat_lt_of_isAlphanum halnum)
      halnum⟩

instance (set : EncodeSet) : Decidable set.SparesEscapes := decidable_of_iff' _ sparesEscapes_iff

/-- What is encoded already stays as it is. -/
theorem percentEncode_eq_self (h : Encoded set cs) : percentEncode set cs = cs := by
  induction cs with
  | nil => rfl
  | cons c cs ih =>
    obtain ⟨⟨hlt, hset⟩, hcs⟩ := List.forall_mem_cons.mp h
    have hc : encodeChar set c = [c] := by
      rw [encodeChar, if_pos (by simp [hlt, hset])]
    have hcons : percentEncode set (c :: cs) = encodeChar set c ++ percentEncode set cs := rfl
    rw [hcons, hc, ih hcs, List.singleton_append]

/-- **What is written is encoded**, so encoding it again changes nothing. -/
theorem encoded_percentEncode (h : set.SparesEscapes) (cs : List Char) :
    Encoded set (percentEncode set cs) := by
  intro c hc
  obtain ⟨d, -, hc⟩ := List.mem_flatMap.mp hc
  rcases encodeChar_cases set d with ⟨heq, hlt, hset⟩ | heq
  · rw [heq, List.mem_singleton] at hc
    exact hc ▸ ⟨hlt, hset⟩
  · rw [heq] at hc
    obtain ⟨b, -, hb⟩ := List.mem_flatMap.mp hc
    rcases mem_encodeByte hb with rfl | halnum
    · exact ⟨by decide, h.1⟩
    · exact ⟨toNat_lt_of_isAlphanum halnum, h.2 c halnum⟩

/-! ### Decoding -/

private theorem percentDecode_cons_of_ne (h : b ≠ byte '%') (s : Bytes) :
    percentDecode (b :: s) = b :: percentDecode s := by
  match s with
  | [] | [_] => rfl
  | _ :: _ :: _ => rw [percentDecode, if_neg h]

/-- A byte that is written is read again. -/
private theorem percentDecode_encodeByte (b : UInt8) (s : Bytes) :
    percentDecode ((encodeByte b).flatMap String.utf8EncodeChar ++ s) = b :: percentDecode s := by
  have hhigh := div_lt_sixteen b
  have hlow := mod_lt_sixteen b
  have hpercent : String.utf8EncodeChar '%' = [byte '%'] := rfl
  have hb : b.toNat / 16 * 16 + b.toNat % 16 = b.toNat := Nat.div_add_mod' _ _
  simp only [encodeByte_eq, List.flatMap_cons, List.flatMap_nil, hpercent,
    utf8EncodeChar_hexDigit _ hhigh, utf8EncodeChar_hexDigit _ hlow, List.cons_append,
    List.nil_append, percentDecode, if_true, hexValue?_hexDigit _ hhigh, hexValue?_hexDigit _ hlow,
    hb]
  rw [Nat.toUInt8, UInt8.ofNat_toNat]

/-- Bytes are decoded from their encoded form. -/
private theorem percentDecode_encodeBytes (bs s : Bytes) :
    percentDecode ((bs.flatMap encodeByte).flatMap String.utf8EncodeChar ++ s) =
      bs ++ percentDecode s := by
  induction bs with
  | nil => rfl
  | cons b bs ih =>
    rw [List.flatMap_cons, List.flatMap_append, List.append_assoc, percentDecode_encodeByte, ih,
      List.cons_append]

/-- A character that is written is read again, if the percent sign is encoded. -/
private theorem percentDecode_encodeChar (h : set '%' = true) (c : Char) (s : Bytes) :
    percentDecode ((encodeChar set c).flatMap String.utf8EncodeChar ++ s) =
      String.utf8EncodeChar c ++ percentDecode s := by
  rcases encodeChar_cases set c with ⟨heq, hlt, hset⟩ | heq
  · have hbyte : byte c ≠ byte '%' := by
      intro hbyte
      rw [eq_of_byte_eq hlt (by decide) hbyte, h] at hset
      cases hset
    rw [heq, List.flatMap_cons, List.flatMap_nil, List.append_nil, utf8EncodeChar_of_lt hlt,
      List.cons_append, List.nil_append, percentDecode_cons_of_ne hbyte, List.cons_append,
      List.nil_append]
  · rw [heq, percentDecode_encodeBytes]

/-- **Decoding gives the text again** if the percent sign is encoded. -/
theorem percentDecode_percentEncode (h : set '%' = true) (cs : List Char) :
    percentDecode ((percentEncode set cs).flatMap String.utf8EncodeChar) =
      cs.flatMap String.utf8EncodeChar := by
  induction cs with
  | nil => rfl
  | cons c cs ih =>
    have hcons : percentEncode set (c :: cs) = encodeChar set c ++ percentEncode set cs := rfl
    rw [hcons, List.flatMap_append, percentDecode_encodeChar h, ih, List.flatMap_cons]

/-- A text is decoded from what is written for it, if the percent sign is encoded. -/
theorem percentDecodeText?_percentEncode (h : set '%' = true) (cs : List Char) :
    percentDecodeText? (String.ofList (percentEncode set cs)) = some (String.ofList cs) := by
  rw [percentDecodeText?, Text.bytes, String.toList_ofList, percentDecode_percentEncode h,
    Utf8.decode?_flatMap_utf8EncodeChar]

/-- A text without percent signs stands for itself. -/
theorem percentDecodeText?_eq_self (h : '%' ∉ cs) :
    percentDecodeText? (String.ofList cs) = some (String.ofList cs) := by
  have hbytes : ∀ b ∈ cs.flatMap String.utf8EncodeChar, b ≠ byte '%' := by
    intro b hb
    obtain ⟨c, hc, hb⟩ := List.mem_flatMap.mp hb
    rintro rfl
    rcases Utf8.mem_utf8EncodeChar hb with ⟨hlt, hbyte⟩ | hle
    · exact h (eq_of_byte_eq hlt (by decide) hbyte.symm ▸ hc)
    · exact absurd hle (by decide)
  have hdecode : percentDecode (cs.flatMap String.utf8EncodeChar) =
      cs.flatMap String.utf8EncodeChar := by
    revert hbytes
    generalize cs.flatMap String.utf8EncodeChar = s
    intro hbytes
    induction s with
    | nil => rfl
    | cons b s ih =>
      obtain ⟨hb, hs⟩ := List.forall_mem_cons.mp hbytes
      rw [percentDecode_cons_of_ne hb, ih hs]
  rw [percentDecodeText?, Text.bytes, String.toList_ofList, hdecode,
    Utf8.decode?_flatMap_utf8EncodeChar]

/-- A percent sign stays if one of the next two bytes is no hexadecimal digit. -/
private theorem percentDecode_cons_of_hexValue?_eq_none (hb : b ∈ s.take 2) (h : hexValue? b = none)
    (a : UInt8) : percentDecode (a :: s) = a :: percentDecode s := by
  match s with
  | [] | [_] => rfl
  | d :: e :: s =>
    have hdigits : ∀ high low, ¬ (hexValue? d = some high ∧ hexValue? e = some low) := by
      rintro high low ⟨hd, he⟩
      simp only [List.take_succ_cons, List.take_zero, List.mem_cons, List.not_mem_nil,
        or_false] at hb
      rcases hb with rfl | rfl
      · cases h.symm.trans hd
      · cases h.symm.trans he
    rw [percentDecode]
    split_ifs
    · split
      next high low hd he => exact absurd ⟨hd, he⟩ (hdigits high low)
      next => rfl
    · rfl

/-- No percent sign reaches over a byte that is no hexadecimal digit. -/
theorem percentDecode_append (h : hexValue? b = none) (xs ys : Bytes) :
    percentDecode (xs ++ b :: ys) = percentDecode xs ++ percentDecode (b :: ys) := by
  have hcons {zs : Bytes} (hzs : b ∈ zs.take 2) (a : UInt8) :
      percentDecode (a :: zs) = a :: percentDecode zs :=
    percentDecode_cons_of_hexValue?_eq_none hzs h a
  fun_induction percentDecode xs with
  | case1 => rfl
  | case2 a => exact hcons List.mem_cons_self a
  | case3 a d =>
    rw [List.cons_append, hcons (by simp), List.cons_append, List.nil_append,
      hcons List.mem_cons_self]
    rfl
  | case4 d e rest high low hhigh hlow ih =>
    -- a whole escape stands before the byte
    simp only [List.cons_append, percentDecode, if_true, hhigh, hlow, ih]
  | case5 d e rest hdigits ih =>
    have hstays : percentDecode (byte '%' :: d :: e :: (rest ++ b :: ys)) =
        byte '%' :: percentDecode (d :: e :: (rest ++ b :: ys)) := by
      rw [percentDecode, if_pos rfl]
      split
      next high low hd he => exact (hdigits high low hd he).elim
      next => rfl
    exact hstays.trans (congrArg (byte '%' :: ·) ih)
  | case6 a d e rest ha ih =>
    rw [List.cons_append, percentDecode_cons_of_ne ha, ih, List.cons_append]

/-- The characters that percent-decoding cannot take for a part of an escape, for they are neither
percent signs nor hexadecimal digits: those up to the space and those beyond ASCII. -/
def IsBeyondEscapes (c : Char) : Prop := c.toNat ≤ 0x20 ∨ 0x80 ≤ c.toNat

/-- No byte of such a character is a visible ASCII character. -/
theorem IsBeyondEscapes.byte_bounds (hc : IsBeyondEscapes c) (hb : b ∈ String.utf8EncodeChar c) :
    b.toNat ≤ 0x20 ∨ 0x80 ≤ b.toNat := by
  rcases Utf8.mem_utf8EncodeChar hb with ⟨hlt, rfl⟩ | hle
  · rcases hc with hc | hc
    · left
      change c.toNat % 256 ≤ 0x20
      omega
    · omega
  · exact .inr hle

private theorem percentDecode_utf8EncodeChar (hc : IsBeyondEscapes c) (s : Bytes) :
    percentDecode (String.utf8EncodeChar c ++ s) = String.utf8EncodeChar c ++ percentDecode s := by
  have hkept (bs : Bytes) (h : ∀ b ∈ bs, b.toNat ≤ 0x20 ∨ 0x80 ≤ b.toNat) :
      percentDecode (bs ++ s) = bs ++ percentDecode s := by
    induction bs with
    | nil => rfl
    | cons b bs ih =>
      obtain ⟨hb, hbs⟩ := List.forall_mem_cons.mp h
      have hne : b ≠ byte '%' := by
        rintro rfl
        revert hb
        decide
      rw [List.cons_append, percentDecode_cons_of_ne hne, ih hbs, List.cons_append]
  exact hkept _ fun b => hc.byte_bounds

/-- **What is no part of an escape is kept.** -/
theorem mem_of_percentDecodeText? {text decoded : String} (h : percentDecodeText? text = some decoded)
    (hmem : c ∈ text.toList) (hc : IsBeyondEscapes c) : c ∈ decoded.toList := by
  obtain ⟨before, after, htext⟩ := List.append_of_mem hmem
  obtain ⟨b, bs, heq, -⟩ := Utf8.exists_utf8EncodeChar_eq_cons c
  have hb : hexValue? b = none := by
    have hbounds := hc.byte_bounds (heq ▸ List.mem_cons_self)
    unfold hexValue?
    dsimp only
    rw [if_neg (by omega), if_neg (by omega), if_neg (by omega)]
  have hbytes : percentDecode (Text.bytes text) =
      percentDecode (before.flatMap String.utf8EncodeChar) ++ String.utf8EncodeChar c ++
        percentDecode (after.flatMap String.utf8EncodeChar) := by
    rw [Text.bytes, htext, List.flatMap_append, List.flatMap_cons, List.append_assoc,
      ← percentDecode_utf8EncodeChar hc, heq, List.cons_append, percentDecode_append hb]
  rw [percentDecodeText?, hbytes] at h
  exact Utf8.mem_of_decode? h

end Deployer.Url
