import Deployer.Proofs.Result
import Deployer.Text.Bytes
import Mathlib.Data.List.Basic

/-!
# Reading UTF-8

The bytes of a character are read as that character, whatever follows them (`scan_utf8EncodeChar`). A
character takes one to four bytes, by its code point; the first opens it and says how many are to come and
between which bounds the next must be, and the others carry it on. There is a lemma for each length, and
one for a byte in the middle (`scan_further`) and for the last one (`scan_last`).

A byte that opens a character ends what is under way before it, so texts that stand one after the other
are read one by one (`scan_append`), and a text holds each character whose bytes it is read from
(`mem_of_decode?`).
-/

namespace Deployer

/-! ### ASCII -/

section

variable {c : Char}

/-- An ASCII character is one byte. -/
theorem utf8EncodeChar_of_lt (h : c.toNat < 0x80) : String.utf8EncodeChar c = [byte c] := by
  have hle : c.val.toNat ≤ 127 := Nat.le_of_lt_succ h
  simp only [String.utf8EncodeChar, if_pos hle]
  rfl

theorem flatMap_utf8EncodeChar_cons (h : c.toNat < 0x80) (cs : List Char) :
    (c :: cs).flatMap String.utf8EncodeChar = byte c :: cs.flatMap String.utf8EncodeChar := by
  rw [List.flatMap_cons, utf8EncodeChar_of_lt h]
  rfl

theorem flatMap_utf8EncodeChar_of_lt {cs : List Char} (h : ∀ c ∈ cs, c.toNat < 0x80) :
    cs.flatMap String.utf8EncodeChar = cs.map byte := by
  induction cs with
  | nil => rfl
  | cons c cs ih =>
    obtain ⟨hc, hcs⟩ := List.forall_mem_cons.mp h
    rw [flatMap_utf8EncodeChar_cons hc, ih hcs, List.map_cons]

theorem eq_of_byte_eq {d : Char} (hc : c.toNat < 0x80) (hd : d.toNat < 0x80)
    (h : byte c = byte d) : c = d := by
  have htoNat : c.toNat % 256 = d.toNat % 256 := congrArg UInt8.toNat h
  have heq : c.toNat = d.toNat := by omega
  rw [← Char.ofNat_toNat c, heq, Char.ofNat_toNat]

end

end Deployer

namespace Deployer.Utf8

variable {b low high : UInt8} {p : Pending} {state : Option Pending} {xs ys : Bytes}
  {c : Char} {s : String} {n v more bits : Nat}

/-! ### The bytes of one character -/

private theorem toNat_continuation (n : Nat) :
    (UInt8.ofNat (n % 64 + 128)).toNat = n % 64 + 128 := by
  rw [UInt8.toNat_ofNat']
  omega

private theorem toNat_continuation_mod (n : Nat) :
    (UInt8.ofNat (n % 64 + 128)).toNat % 64 = n % 64 := by
  rw [toNat_continuation]
  omega

private theorem continuation_bounds (n : Nat) :
    (0x80 : UInt8).toNat ≤ n % 64 + 128 ∧ n % 64 + 128 ≤ (0xBF : UInt8).toNat := by
  change 128 ≤ n % 64 + 128 ∧ n % 64 + 128 ≤ 191
  omega

private theorem continuation_between (h : low.toNat ≤ n % 64 + 128 ∧ n % 64 + 128 ≤ high.toNat) :
    low ≤ UInt8.ofNat (n % 64 + 128) ∧ UInt8.ofNat (n % 64 + 128) ≤ high := by
  rw [UInt8.le_iff_toNat_le, UInt8.le_iff_toNat_le, toNat_continuation]
  exact h

/-- The last byte of a character completes it. -/
private theorem scan_last (h : low.toNat ≤ n % 64 + 128 ∧ n % 64 + 128 ≤ high.toNat)
    (rest : Bytes) :
    scan (some ⟨0, low, high, bits⟩) (UInt8.ofNat (n % 64 + 128) :: rest) =
      some (Char.ofNat (bits * 64 + n % 64)) :: scan none rest := by
  rw [scan, if_pos (continuation_between h), toNat_continuation_mod]

/-- A byte before the last one adds its bits. -/
private theorem scan_further (h : low.toNat ≤ n % 64 + 128 ∧ n % 64 + 128 ≤ high.toNat)
    (rest : Bytes) :
    scan (some ⟨more + 1, low, high, bits⟩) (UInt8.ofNat (n % 64 + 128) :: rest) =
      scan (some ⟨more, 0x80, 0xBF, bits * 64 + n % 64⟩) rest := by
  rw [scan, if_pos (continuation_between h), toNat_continuation_mod]

private theorem scan_one (h : v ≤ 127) (rest : Bytes) :
    scan none (UInt8.ofNat v :: rest) = some (Char.ofNat v) :: scan none rest := by
  have hfirst : (UInt8.ofNat v).toNat = v := by
    rw [UInt8.toNat_ofNat']
    omega
  have hlead : lead (UInt8.ofNat v) = .plain (Char.ofNat v) := by
    simp only [lead, hfirst]
    rw [if_pos (by omega)]
  rw [scan, hlead]

private theorem scan_two (h : 127 < v) (h' : v ≤ 2047) (rest : Bytes) :
    scan none (UInt8.ofNat (v / 64 % 32 + 192) :: UInt8.ofNat (v % 64 + 128) :: rest) =
      some (Char.ofNat v) :: scan none rest := by
  have hfirst : (UInt8.ofNat (v / 64 % 32 + 192)).toNat = v / 64 + 192 := by
    rw [UInt8.toNat_ofNat']
    omega
  have hlead : lead (UInt8.ofNat (v / 64 % 32 + 192)) = .opens ⟨0, 0x80, 0xBF, v / 64⟩ := by
    simp only [lead, hfirst]
    rw [if_neg (by omega), if_neg (by omega), if_pos (by omega), Nat.add_sub_cancel]
  have hv : v / 64 * 64 + v % 64 = v := by omega
  rw [scan, hlead]
  dsimp only
  rw [scan_last (continuation_bounds v), hv]

private theorem scan_three (h : 2047 < v) (h' : v ≤ 65535) (hvalid : v.isValidChar) (rest : Bytes) :
    scan none (UInt8.ofNat (v / 4096 % 16 + 224) :: UInt8.ofNat (v / 64 % 64 + 128) ::
        UInt8.ofNat (v % 64 + 128) :: rest) =
      some (Char.ofNat v) :: scan none rest := by
  have hfirst : (UInt8.ofNat (v / 4096 % 16 + 224)).toNat = v / 4096 + 224 := by
    rw [UInt8.toNat_ofNat']
    omega
  -- the second byte has bounds of its own where forms may be overlong, and before the surrogates
  obtain ⟨low, high, hlead, hbounds⟩ : ∃ low high : UInt8,
      lead (UInt8.ofNat (v / 4096 % 16 + 224)) = .opens ⟨1, low, high, v / 4096⟩ ∧
        low.toNat ≤ v / 64 % 64 + 128 ∧ v / 64 % 64 + 128 ≤ high.toNat := by
    simp only [Nat.isValidChar] at hvalid
    simp only [lead, hfirst]
    rw [if_neg (by omega), if_neg (by omega), if_neg (by omega)]
    by_cases hzero : v / 4096 = 0
    · exact ⟨0xA0, 0xBF, by simp [hzero], by simp; omega⟩
    · by_cases hsurrogate : v / 4096 = 13
      · exact ⟨0x80, 0x9F, by simp [hsurrogate], by simp; omega⟩
      · refine ⟨0x80, 0xBF, ?_, continuation_bounds _⟩
        rw [if_neg (by omega), if_neg (by omega), if_pos (by omega), Nat.add_sub_cancel]
  have hv : (v / 4096 * 64 + v / 64 % 64) * 64 + v % 64 = v := by omega
  rw [scan, hlead]
  dsimp only
  rw [scan_further hbounds, scan_last (continuation_bounds v), hv]

private theorem scan_four (h : 65535 < v) (hvalid : v.isValidChar) (rest : Bytes) :
    scan none (UInt8.ofNat (v / 262144 % 8 + 240) :: UInt8.ofNat (v / 4096 % 64 + 128) ::
        UInt8.ofNat (v / 64 % 64 + 128) :: UInt8.ofNat (v % 64 + 128) :: rest) =
      some (Char.ofNat v) :: scan none rest := by
  simp only [Nat.isValidChar] at hvalid
  have hfirst : (UInt8.ofNat (v / 262144 % 8 + 240)).toNat = v / 262144 + 240 := by
    rw [UInt8.toNat_ofNat']
    omega
  -- as above, and after the last of the five values lies the end of the code points
  obtain ⟨low, high, hlead, hbounds⟩ : ∃ low high : UInt8,
      lead (UInt8.ofNat (v / 262144 % 8 + 240)) = .opens ⟨2, low, high, v / 262144⟩ ∧
        low.toNat ≤ v / 4096 % 64 + 128 ∧ v / 4096 % 64 + 128 ≤ high.toNat := by
    simp only [lead, hfirst]
    rw [if_neg (by omega), if_neg (by omega), if_neg (by omega), if_neg (by omega),
      if_neg (by omega), if_neg (by omega)]
    by_cases hzero : v / 262144 = 0
    · exact ⟨0x90, 0xBF, by simp [hzero], by simp; omega⟩
    · by_cases hlast : v / 262144 = 4
      · exact ⟨0x80, 0x8F, by simp [hlast], by simp; omega⟩
      · refine ⟨0x80, 0xBF, ?_, continuation_bounds _⟩
        rw [if_neg (by omega), if_pos (by omega), Nat.add_sub_cancel]
  have hv : ((v / 262144 * 64 + v / 4096 % 64) * 64 + v / 64 % 64) * 64 + v % 64 = v := by omega
  rw [scan, hlead]
  dsimp only
  rw [scan_further hbounds, scan_further (continuation_bounds _),
    scan_last (continuation_bounds v), hv]

/-- **A character that is written is read again**, whatever follows it. -/
theorem scan_utf8EncodeChar (c : Char) (rest : Bytes) :
    scan none (String.utf8EncodeChar c ++ rest) = some c :: scan none rest := by
  have hvalid : c.val.toNat.isValidChar := c.valid
  have hc : Char.ofNat c.val.toNat = c := Char.ofNat_toNat c
  rw [String.utf8EncodeChar]
  split_ifs with hone htwo hthree
  · rw [List.cons_append, List.nil_append, scan_one hone, hc]
  · simp only [List.cons_append, List.nil_append]
    rw [scan_two (by omega) htwo, hc]
  · simp only [List.cons_append, List.nil_append]
    rw [scan_three (by omega) hthree hvalid, hc]
  · simp only [List.cons_append, List.nil_append]
    rw [scan_four (by omega) hvalid, hc]

/-- A character is one ASCII byte, or all of its bytes are beyond ASCII. -/
theorem mem_utf8EncodeChar (h : b ∈ String.utf8EncodeChar c) :
    (c.toNat < 0x80 ∧ b = byte c) ∨ 0x80 ≤ b.toNat := by
  rw [String.utf8EncodeChar] at h
  split_ifs at h with hone htwo hthree
  · exact .inl ⟨Nat.lt_succ_of_le hone, List.mem_singleton.mp h⟩
  all_goals
    right
    simp only [List.mem_cons, List.not_mem_nil, or_false] at h
    rcases h with rfl | rfl | rfl | rfl <;> rw [UInt8.toNat_ofNat'] <;> omega

/-- The bytes of a character begin with one that opens a character. -/
theorem exists_utf8EncodeChar_eq_cons (c : Char) :
    ∃ b bs, String.utf8EncodeChar c = b :: bs ∧ ¬ (0x80 ≤ b ∧ b ≤ 0xBF) := by
  rw [String.utf8EncodeChar]
  split_ifs with hone htwo hthree
  all_goals
    refine ⟨_, _, rfl, ?_⟩
    rw [UInt8.le_iff_toNat_le, UInt8.le_iff_toNat_le, UInt8.toNat_ofNat']
    change ¬ (128 ≤ _ ∧ _ ≤ 191)
    omega

theorem scan_flatMap_utf8EncodeChar (cs : List Char) :
    scan none (cs.flatMap String.utf8EncodeChar) = cs.map some := by
  induction cs with
  | nil => rfl
  | cons c cs ih => rw [List.flatMap_cons, scan_utf8EncodeChar, ih, List.map_cons]

/-- **A text that is written is read again.** -/
theorem decode?_flatMap_utf8EncodeChar (cs : List Char) :
    decode? (cs.flatMap String.utf8EncodeChar) = some (String.ofList cs) := by
  have hmapM : (cs.map some).mapM id = some cs := mapM_map_eq_some fun _ _ => rfl
  rw [decode?, scan_flatMap_utf8EncodeChar, hmapM, Option.map_some]

/-! ### Texts one after the other -/

/-- What is under way goes on only with bytes that open no character. -/
structure Pending.Bounded (p : Pending) : Prop where
  low : 0x80 ≤ p.low
  high : p.high ≤ 0xBF

private theorem bounded_of_lead (h : lead b = .opens p) : p.Bounded := by
  unfold lead at h
  dsimp only at h
  split_ifs at h <;> obtain rfl := Lead.opens.inj h
  all_goals
    constructor <;> dsimp only <;> decide

/-- A byte that does not carry on what is under way ends it, and is read as if nothing were. -/
theorem scan_cut (h : ¬ (p.low ≤ b ∧ b ≤ p.high)) (rest : Bytes) :
    scan (some p) (b :: rest) = none :: scan none (b :: rest) := by
  simp only [scan, if_neg h]

/-- Texts that stand one after the other are read one by one, if the second begins with a byte that
opens a character. -/
theorem scan_append (hys : ∀ b ∈ ys.head?, ¬ (0x80 ≤ b ∧ b ≤ 0xBF))
    (hstate : ∀ p ∈ state, p.Bounded) :
    scan state (xs ++ ys) = scan state xs ++ scan none ys := by
  induction xs generalizing state with
  | nil =>
    cases state with
    | none => rfl
    | some p =>
      have hp := hstate p rfl
      cases ys with
      | nil => rfl
      | cons b ys =>
        have hb : ¬ (p.low ≤ b ∧ b ≤ p.high) := fun hb =>
          hys b rfl ⟨UInt8.le_trans hp.low hb.1, UInt8.le_trans hb.2 hp.high⟩
        simp only [List.nil_append, scan, if_neg hb, List.cons_append]
  | cons b xs ih =>
    have hopened : scan none (b :: (xs ++ ys)) = scan none (b :: xs) ++ scan none ys := by
      rw [scan, scan]
      cases hlead : lead b with
      | plain c => exact congrArg (some c :: ·) (ih fun p hp => nomatch hp)
      | opens q => exact ih fun p hp => Option.mem_some_iff.mp hp ▸ bounded_of_lead hlead
      | stray => exact congrArg (none :: ·) (ih fun p hp => nomatch hp)
    cases state with
    | none => exact hopened
    | some p =>
      -- the byte carries on what is under way, or is read as if nothing were
      rw [List.cons_append]
      by_cases hb : p.low ≤ b ∧ b ≤ p.high
      · obtain ⟨more, low, high, bits⟩ := p
        cases more with
        | zero =>
          simp only [scan, if_pos hb]
          exact congrArg (some _ :: ·) (ih fun p hp => nomatch hp)
        | succ more =>
          simp only [scan, if_pos hb]
          refine ih fun p hp => ?_
          obtain rfl := Option.mem_some_iff.mp hp
          constructor <;> dsimp only <;> decide
      · rw [scan_cut hb, scan_cut hb, hopened, List.cons_append]

/-- **A character is in a text** if its bytes are. -/
theorem mem_of_decode? (h : decode? (xs ++ String.utf8EncodeChar c ++ ys) = some s) :
    c ∈ s.toList := by
  obtain ⟨cs, hcs, rfl⟩ := Option.map_eq_some_iff.mp h
  rw [String.toList_ofList]
  obtain ⟨b, bs, heq, hb⟩ := exists_utf8EncodeChar_eq_cons c
  have hscan : scan none (xs ++ String.utf8EncodeChar c ++ ys) =
      scan none xs ++ some c :: scan none ys := by
    rw [List.append_assoc, ← scan_utf8EncodeChar]
    refine scan_append (fun b' hb' => ?_) fun p hp => nomatch hp
    rw [heq] at hb'
    exact Option.mem_some_iff.mp hb' ▸ hb
  have hmem : some c ∈ scan none (xs ++ String.utf8EncodeChar c ++ ys) :=
    hscan ▸ List.mem_append_right _ List.mem_cons_self
  obtain ⟨d, hd, heq⟩ := exists_mem_of_mapM hcs hmem
  exact Option.some.inj heq ▸ hd

end Deployer.Utf8
