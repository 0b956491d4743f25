import Deployer.Json.Printer
import Deployer.Proofs.Json.Spelling

/-!
# Numerals

A number is read the same wherever it stands, if nothing follows it that would continue it: no digit, no
point, and no letter of an exponent (`Ends`). A numeral is read in parts, the digits of the integer, the
fraction and the exponent, and each part passes on what follows it. So there is one lemma for each part,
and `readNumber_append` puts them together.

An integer is read from its decimal digits (`readNumber_writeInt`). The digits are added up as long as
the sum fits a word, so the bound on integers is that of the reader, and the last digit comes off the end
(`decimal_of_le`), which is where the induction takes it from.

Of a number in floating point nothing is said but that some numeral denotes it (`SpellsNumber`): rounding
is left to the reader.
-/

namespace Deployer.Json

variable {s t bs rest : Bytes} {b : UInt8} {n : Nat}

/-! ### Where a number ends -/

/-- What does not continue a number that stands before it. -/
def Ends (s : Bytes) : Prop :=
  ∀ b ∈ s.head?, isDigit b = false ∧ b ≠ byte '.' ∧ b ≠ byte 'e' ∧ b ≠ byte 'E'

theorem ends_nil : Ends [] := fun _ h => nomatch h

private theorem ends_of_isBlank (h : isBlank b = true) (s : Bytes) : Ends (b :: s) := by
  intro b' hb'
  cases hb'
  simp only [isBlank, Bool.or_eq_true, beq_iff_eq] at h
  rcases h with ((rfl | rfl) | rfl) | rfl <;> decide

/-- Blanks, and what may follow a number, may follow a number. -/
theorem Ends.append (h : Ends s) (hbs : Blanks bs) : Ends (bs ++ s) := by
  cases bs with
  | nil => exact h
  | cons b bs => exact ends_of_isBlank (hbs b List.mem_cons_self) _

theorem Ends.isDigit_eq_false (h : Ends rest) : ∀ b ∈ rest.head?, isDigit b = false :=
  fun b hb => (h b hb).1

/-- Digits end where something follows that is no digit. -/
private theorem takeWhile_append_of_head {p : UInt8 → Bool} (h : ∀ b ∈ rest.head?, p b = false)
    (s : Bytes) :
    (s ++ rest).takeWhile p = s.takeWhile p ∧ (s ++ rest).dropWhile p = s.dropWhile p ++ rest := by
  induction s with
  | nil =>
    cases rest with
    | nil => exact ⟨rfl, rfl⟩
    | cons b rest => simp [h b rfl]
  | cons b s ih => cases hb : p b <;> simp [hb, ih]

/-- The digits in front are the same, whatever follows them. -/
theorem readDigits_append (h : Ends rest) (s : Bytes) :
    readDigits (s ++ rest) = ((readDigits s).1, (readDigits s).2 ++ rest) :=
  Prod.ext (takeWhile_append_of_head h.isDigit_eq_false s).1
    (takeWhile_append_of_head h.isDigit_eq_false s).2

theorem readWhole_append {whole r : Bytes} (h : Ends rest) (hread : readWhole s = .ok (whole, r)) :
    readWhole (s ++ rest) = .ok (whole, r ++ rest) := by
  unfold readWhole at hread
  split at hread
  next => cases hread
  next b s =>
    rw [List.cons_append, readWhole.eq_def]
    dsimp only
    split at hread
    next hzero =>
      rw [if_pos hzero]
      split at hread
      next c s =>
        split at hread
        next => cases hread
        next hc =>
          cases hread
          exact if_neg hc
      next =>
        cases hread
        -- the zero ends the text, so what follows must not be a digit
        cases rest with
        | nil => rfl
        | cons c rest => exact if_neg (Bool.eq_false_iff.mp (h c rfl).1)
    next hzero =>
      rw [if_neg hzero]
      split at hread
      next hb =>
        cases hread
        rw [if_pos hb, readDigits_append h]
        rfl
      next => cases hread

theorem readFraction_append {fraction : Option Bytes} {r : Bytes} (h : Ends rest)
    (hread : readFraction s = .ok (fraction, r)) :
    readFraction (s ++ rest) = .ok (fraction, r ++ rest) := by
  unfold readFraction at hread
  split at hread
  next =>
    cases hread
    cases rest with
    | nil => rfl
    | cons b rest => exact if_neg (h b rfl).2.1
  next b s =>
    rw [List.cons_append, readFraction]
    split at hread
    next hb =>
      rw [if_pos hb, readDigits_append h]
      split at hread
      next => cases hread
      next => cases hread
      next digits r' hsome hsome' hdigits =>
        cases hread
        rw [hdigits]
        cases digits with
        | nil =>
          cases r with
          | nil => exact (hsome rfl rfl).elim
          | cons c r => exact (hsome' rfl).elim
        | cons d digits => rfl
    next hb =>
      cases hread
      exact if_neg hb

/-- The digits of an exponent, behind its sign. -/
def readExponentDigits (negative : Bool) : Reader (Option (Bool × Bytes))
  | [] => .error ⟨.endInValue, []⟩
  | c :: s =>
    if isDigit c then .ok (some (negative, (readDigits (c :: s)).1), (readDigits (c :: s)).2)
    else .error ⟨.badNumber, s⟩

private theorem readExponent_of_letter (hb : b = byte 'e' ∨ b = byte 'E') (c : UInt8) (s : Bytes) :
    readExponent (b :: c :: s) =
      if c = byte '-' then readExponentDigits true s
      else if c = byte '+' then readExponentDigits false s
      else readExponentDigits false (c :: s) := by
  rw [readExponent.eq_def]
  dsimp only
  rw [if_pos hb]
  split_ifs
  · cases s <;> rfl
  · cases s <;> rfl
  · rfl

theorem readExponentDigits_append {negative : Bool} {exponent : Option (Bool × Bytes)} {r : Bytes}
    (h : Ends rest) (hread : readExponentDigits negative s = .ok (exponent, r)) :
    readExponentDigits negative (s ++ rest) = .ok (exponent, r ++ rest) := by
  cases s with
  | nil => cases hread
  | cons c s =>
    have hdigits := readDigits_append h (c :: s)
    rw [List.cons_append] at hdigits ⊢
    rw [readExponentDigits] at hread ⊢
    split at hread
    next hc =>
      cases hread
      rw [if_pos hc, hdigits]
    next => cases hread

theorem readExponent_append {exponent : Option (Bool × Bytes)} {r : Bytes} (h : Ends rest)
    (hread : readExponent s = .ok (exponent, r)) :
    readExponent (s ++ rest) = .ok (exponent, r ++ rest) := by
  cases s with
  | nil =>
    cases hread
    cases rest with
    | nil => rfl
    | cons b rest => exact if_neg (not_or.mpr (h b rfl).2.2)
  | cons b s =>
    by_cases hb : b = byte 'e' ∨ b = byte 'E'
    · cases s with
      | nil =>
        rw [readExponent.eq_def] at hread
        cases (if_pos hb).symm.trans hread
      | cons c s =>
        rw [readExponent_of_letter hb] at hread
        rw [List.cons_append, List.cons_append, readExponent_of_letter hb]
        split_ifs at hread ⊢ <;> exact readExponentDigits_append h hread
    · rw [readExponent.eq_def] at hread
      cases (if_neg hb).symm.trans hread
      exact if_neg hb

theorem floatOf_append {negative : Bool} {acc : Nat} {beyond : Bytes} {fraction : Option Bytes}
    {exponent : Option (Bool × Bytes)} {n : Number} {r : Bytes}
    (h : floatOf negative acc beyond fraction exponent r = .ok n) (rest : Bytes) :
    floatOf negative acc beyond fraction exponent (r ++ rest) = .ok n := by
  unfold floatOf at h ⊢
  dsimp only at h ⊢
  split at h
  next =>
    split at h
    next =>
      cases h
      rfl
    next => cases h
  next =>
    split at h
    next =>
      split at h
      next =>
        cases h
        rfl
      next => cases h
    next =>
      split at h
      next => cases h
      next hzero =>
        cases h
        exact if_neg hzero

theorem numberOf_append {negative : Bool} {whole : Bytes} {fraction : Option Bytes}
    {exponent : Option (Bool × Bytes)} {n : Number} {r : Bytes}
    (h : numberOf negative whole fraction exponent r = .ok n) (rest : Bytes) :
    numberOf negative whole fraction exponent (r ++ rest) = .ok n := by
  unfold numberOf at h ⊢
  generalize accumulate 0 whole = accumulated at h ⊢
  obtain ⟨acc, beyond⟩ := accumulated
  dsimp only at h ⊢
  split at h
  next => exact h
  next => exact floatOf_append h rest

/-- **A number is read as what it spells** where nothing continues it. -/
theorem readNumber_append {n : Number} {r : Bytes} (h : Ends rest)
    (hread : readNumber s = .ok (n, r)) : readNumber (s ++ rest) = .ok (n, r ++ rest) := by
  unfold readNumber at hread ⊢
  cases s with
  | nil => cases hread
  | cons b s =>
    simp only [List.cons_append, bind_eq_ok, pure, Except.pure, Except.ok.injEq, Prod.mk.injEq,
      Prod.exists] at hread ⊢
    obtain ⟨whole, r₁, hwhole, fraction, r₂, hfraction, exponent, r₃, hexponent, n, hn, rfl, rfl⟩ :=
      hread
    refine ⟨whole, r₁ ++ rest, ?_, fraction, r₂ ++ rest, readFraction_append h hfraction, exponent,
      r₃ ++ rest, readExponent_append h hexponent, n, ?_, rfl, rfl⟩
    · split_ifs at hwhole ⊢ <;> exact readWhole_append h hwhole
    · split_ifs at hn ⊢ <;> exact numberOf_append hn rest

/-! ### Integers -/

/-- The decimal digits of a number. -/
def decimal (n : Nat) : Bytes := (Nat.toDigits 10 n).map byte

private theorem isDigit_digitChar : ∀ d < 10, isDigit (byte d.digitChar) = true := by decide

private theorem digitValue_digitChar : ∀ d < 10, digitValue (byte d.digitChar) = d := by decide

private theorem decimal_of_lt (h : n < 10) : decimal n = [byte n.digitChar] := by
  rw [decimal, Nat.toDigits_of_lt_base h]
  rfl

/-- The last digit stands at the end. -/
private theorem decimal_of_le (h : 10 ≤ n) :
    decimal n = decimal (n / 10) ++ [byte (n % 10).digitChar] := by
  rw [decimal, Nat.toDigits_eq_if (by decide), if_neg (Nat.not_lt.mpr h), List.map_append]
  rfl

/-- Numbers are written in digits. -/
private theorem isDigit_of_mem_decimal (h : b ∈ decimal n) : isDigit b = true := by
  induction n using Nat.strongRecOn with
  | ind n ih =>
    rcases Nat.lt_or_ge n 10 with hlt | hle
    · rw [decimal_of_lt hlt, List.mem_singleton] at h
      exact h ▸ isDigit_digitChar n hlt
    · rw [decimal_of_le hle, List.mem_append, List.mem_singleton] at h
      rcases h with h | rfl
      · exact ih _ (Nat.div_lt_self (by omega) (by decide)) h
      · exact isDigit_digitChar _ (Nat.mod_lt n (by decide))

/-- Only the digits of zero begin with a zero. -/
theorem exists_decimal_eq_cons (n : Nat) : ∃ b s, decimal n = b :: s ∧ (b = byte '0' → n = 0) := by
  induction n using Nat.strongRecOn with
  | ind n ih =>
    rcases Nat.lt_or_ge n 10 with hlt | hle
    · have hzero : ∀ d < 10, byte d.digitChar = byte '0' → d = 0 := by decide
      exact ⟨_, [], decimal_of_lt hlt, hzero n hlt⟩
    · -- the first digit is that of the number without its last one, which is not zero
      obtain ⟨b, s, hs, hb⟩ := ih (n / 10) (Nat.div_lt_self (by omega) (by decide))
      refine ⟨b, s ++ [byte (n % 10).digitChar], ?_, fun hzero => ?_⟩
      · rw [decimal_of_le hle, hs, List.cons_append]
      · have hdiv := hb hzero
        omega

/-- The digits of a number are read as one integer part. -/
private theorem readWhole_decimal (n : Nat) : readWhole (decimal n) = .ok (decimal n, []) := by
  by_cases hn : n = 0
  · rw [hn]
    decide
  · obtain ⟨b, s, hs, hzero⟩ := exists_decimal_eq_cons n
    have hdigits : ∀ c ∈ b :: s, isDigit c = true := fun c hc => isDigit_of_mem_decimal (hs ▸ hc)
    obtain ⟨hb, hmore⟩ := List.forall_mem_cons.mp hdigits
    have hread : readDigits s = (s, []) :=
      Prod.ext (List.takeWhile_eq_self_iff.mpr hmore) (List.dropWhile_eq_nil_iff.mpr hmore)
    rw [hs, readWhole.eq_def]
    simp only [if_neg (mt hzero hn), hb, if_true, hread]

theorem accumulate_append {acc : Nat} (h : accumulate acc s = (n, [])) (t : Bytes) :
    accumulate acc (s ++ t) = accumulate n t := by
  induction s generalizing acc with
  | nil =>
    cases h
    rfl
  | cons b s ih =>
    rw [accumulate] at h
    rw [List.cons_append, accumulate]
    split_ifs at h ⊢
    · exact ih h
    · cases h

/-- The digits of a number add up to the number. -/
private theorem accumulate_decimal (h : n ≤ maxDigits) : accumulate 0 (decimal n) = (n, []) := by
  induction n using Nat.strongRecOn with
  | ind n ih =>
    rcases Nat.lt_or_ge n 10 with hlt | hle
    · simp [decimal_of_lt hlt, accumulate, digitValue_digitChar n hlt, h]
    · have hpart := ih (n / 10) (Nat.div_lt_self (by omega) (by decide)) (by omega)
      have hvalue : n / 10 * 10 + n % 10 = n := Nat.div_add_mod' n 10
      rw [decimal_of_le hle, accumulate_append hpart, accumulate,
        digitValue_digitChar _ (Nat.mod_lt n (by decide)), hvalue]
      exact if_pos h

private theorem numberOf_decimal (h : n ≤ maxDigits) :
    numberOf false (decimal n) none none [] = .ok (.int n) := by
  rw [numberOf, accumulate_decimal h]
  rfl

private theorem numberOf_minus_decimal (hpos : 0 < n) (h : n ≤ 0x8000000000000000) :
    numberOf true (decimal n) none none [] = .ok (.int (-n)) := by
  have hmax : n ≤ maxDigits := Nat.le_trans h (by decide)
  simp [numberOf, accumulate_decimal hmax, hpos, h]

/-- A number is read back from its digits. -/
private theorem readNumber_decimal (h : n ≤ maxDigits) :
    readNumber (decimal n) = .ok (.int n, []) := by
  obtain ⟨b, s, hs, -⟩ := exists_decimal_eq_cons n
  have hminus : b ≠ byte '-' := by
    rintro rfl
    exact absurd (isDigit_of_mem_decimal (hs ▸ List.mem_cons_self)) (by decide)
  rw [hs, readNumber]
  simp only [if_neg hminus]
  rw [← hs, readWhole_decimal]
  simp only [bind, Except.bind, readFraction, readExponent, numberOf_decimal h, pure, Except.pure]

private theorem readNumber_minus_decimal (hpos : 0 < n) (h : n ≤ 0x8000000000000000) :
    readNumber (byte '-' :: decimal n) = .ok (.int (-n), []) := by
  simp only [readNumber, if_true, readWhole_decimal, bind, Except.bind, readFraction, readExponent,
    numberOf_minus_decimal hpos h, pure, Except.pure]

/-- **An integer is read from its decimal digits.** -/
theorem readNumber_writeInt {n : Int} (h : minInteger ≤ n ∧ n ≤ maxInteger) :
    readNumber ((writeInt n).map byte) = .ok (.int n, []) := by
  unfold minInteger maxInteger at h
  unfold writeInt
  split_ifs with hneg
  · obtain ⟨m, rfl⟩ := Int.exists_eq_neg_ofNat (Int.le_of_lt hneg)
    have hm := readNumber_minus_decimal (n := m) (by omega) (by omega)
    rw [List.map_cons, Int.natAbs_neg, Int.natAbs_natCast]
    exact hm
  · obtain ⟨m, rfl⟩ := Int.eq_ofNat_of_zero_le (Int.not_lt.mp hneg)
    exact readNumber_decimal (show m ≤ 0xFFFFFFFFFFFFFFFF by omega)

/-- The texts that spell a number: for an integer its decimal digits, and for a number in floating point
each numeral that denotes it. -/
inductive SpellsNumber : Number → Bytes → Prop
  | int {n : Int} (h : minInteger ≤ n ∧ n ≤ maxInteger) :
    SpellsNumber (.int n) ((writeInt n).map byte)
  | float {x : Binary64} {t : Bytes} (h : readNumber t = .ok (.float x, [])) :
    SpellsNumber (.float x) t

theorem SpellsNumber.read {n : Number} (h : SpellsNumber n t) : readNumber t = .ok (n, []) := by
  cases h with
  | int h => exact readNumber_writeInt h
  | float h => exact h

end Deployer.Json
