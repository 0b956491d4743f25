import Deployer.Json.Skip
import Deployer.Proofs.Result
import Mathlib.Data.List.DropRight
import Mathlib.Data.List.TakeWhile

/-!
# What a lexeme takes

A reader of a lexeme and the function that passes over the same lexeme are written apart: the reader
decodes as it goes, and what passes over it only checks the syntax. Here it is shown that what can be
read can be passed over, and that both leave the same bytes (`skipString_of_read`,
`skipNumber_of_read`), and that every lexeme takes at least one byte.

For a number the two are compared part by part, beginning with the exponent: a function that passes over
one part goes on to the next, whereas the reader takes the parts one after another.
-/

namespace Deployer.Json

variable {s r rest : Bytes}

/-! ### Blanks and words -/

theorem length_skipBlanks_le (s : Bytes) : (skipBlanks s).length ≤ s.length :=
  List.length_dropWhile_le _ _

/-- What follows blanks does not begin with one. -/
theorem skipBlanks_skipBlanks (s : Bytes) : skipBlanks (skipBlanks s) = skipBlanks s :=
  List.dropWhile_idempotent _ _

theorem skipBlanks_of_eq_cons {b : UInt8} (h : skipBlanks s = b :: r) :
    skipBlanks (b :: r) = b :: r := by
  rw [← h, skipBlanks_skipBlanks]

theorem length_lt_of_skipBlanks {b : UInt8} (h : skipBlanks s = b :: r) :
    r.length < s.length := by
  have hle := length_skipBlanks_le s
  rw [h] at hle
  exact hle

theorem length_le_of_readWord {cs : List Char} (h : readWord cs s = .ok rest) :
    rest.length ≤ s.length := by
  fun_induction readWord cs s with
  | case1 =>
    cases h
    exact Nat.le_refl _
  | case2 => cases h
  | case3 c cs s ih => exact Nat.le_succ_of_le (ih h)
  | case4 => cases h

/-! ### Strings -/

private theorem stringBody_of_prepend {bs content : Bytes}
    (h : prepend bs (stringBody s) = .ok (content, rest)) :
    ∃ more, stringBody s = .ok (more, rest) := by
  obtain ⟨⟨more, rest⟩, hread, heq⟩ := map_eq_ok.mp h
  cases heq
  exact ⟨more, hread⟩

/-- The content of a string that can be decoded is passed over byte by byte; the two halves of a
surrogate pair are passed over one after the other. -/
private theorem skipString_of_stringBody {content : Bytes}
    (h : stringBody s = .ok (content, rest)) :
    skipString s = .ok rest ∧ rest.length < s.length := by
  fun_induction stringBody s generalizing content
  -- in turn: the closing quote, an escaped unit, a surrogate pair, a short escape, a byte as it is;
  -- every other case is a refusal
  case case2 s =>
    cases h
    exact ⟨by unfold skipString; exact if_pos rfl, Nat.lt_succ_self _⟩
  case case6 hunit _ _ hquote ih =>
    obtain ⟨more, hmore⟩ := stringBody_of_prepend h
    obtain ⟨hskip, hlt⟩ := ih hmore
    refine ⟨by simp [skipString, hquote, hunit, hskip], ?_⟩
    simp only [List.length_cons]
    omega
  case case13 hunit _ _ _ hslash _ hu _ _ _ _ _ _ hunit' _ hquote ih =>
    obtain ⟨more, hmore⟩ := stringBody_of_prepend h
    obtain ⟨hskip, hlt⟩ := ih hmore
    obtain rfl := Decidable.not_not.mp hslash
    obtain rfl := Decidable.not_not.mp hu
    refine ⟨by simp [skipString, hquote, hunit, hunit', hskip], ?_⟩
    simp only [List.length_cons]
    omega
  case case16 hu _ hescape hquote ih =>
    obtain ⟨more, hmore⟩ := stringBody_of_prepend h
    obtain ⟨hskip, hlt⟩ := ih hmore
    refine ⟨by unfold skipString; simp [hquote, hu, hescape, hskip], ?_⟩
    simp only [List.length_cons]
    omega
  case case19 hquote hslash hcontrol ih =>
    obtain ⟨more, hmore⟩ := stringBody_of_prepend h
    obtain ⟨hskip, hlt⟩ := ih hmore
    refine ⟨by unfold skipString; simp [hquote, hslash, hcontrol, hskip], ?_⟩
    simp only [List.length_cons]
    omega
  all_goals cases h

/-- A string that can be read is passed over. -/
theorem skipString_of_read {text : String} (h : readString s = .ok (text, rest)) :
    skipString s = .ok rest ∧ rest.length < s.length := by
  obtain ⟨⟨content, rest'⟩, hbody, htext⟩ := bind_eq_ok.mp h
  dsimp only at htext
  split at htext
  next =>
    cases htext
    exact skipString_of_stringBody hbody
  next => cases htext

/-! ### Numbers -/

/-- What follows the sign of an exponent, if it has one. -/
def afterSign : Bytes → Bytes
  | [] => []
  | c :: t => if c = byte '-' ∨ c = byte '+' then t else c :: t

theorem skipExponent_cons (b : UInt8) (s : Bytes) :
    skipExponent (b :: s) =
      if b = byte 'e' ∨ b = byte 'E' then
        match afterSign s with
        | [] => .error ⟨.badNumber, []⟩
        | c :: t => if isDigit c then .ok (t.dropWhile isDigit) else .error ⟨.badNumber, t⟩
      else .ok (b :: s) := by
  cases s <;> rfl

/-- An exponent that can be read is passed over. -/
private theorem skipExponent_of_read {exponent : Option (Bool × Bytes)}
    (h : readExponent s = .ok (exponent, rest)) :
    skipExponent s = .ok rest ∧ rest.length ≤ s.length := by
  unfold readExponent at h
  split at h
  next =>
    cases h
    exact ⟨rfl, Nat.le_refl _⟩
  next b s =>
    rw [skipExponent_cons]
    split at h
    next hb =>
      split at h
      next negative t hsign =>
        -- the reader looks for the sign and what follows it at once
        have ht : afterSign s = t ∧ t.length ≤ s.length := by
          cases s <;> grind [afterSign]
        split at h
        next => cases h
        next c t =>
          split at h
          next hc =>
            cases h
            have hle := List.length_dropWhile_le isDigit t
            rw [List.dropWhile_cons_of_pos hc, if_pos hb, ht.1]
            refine ⟨if_pos hc, ?_⟩
            simp only [List.length_cons] at ht ⊢
            omega
          next => cases h
    next hb =>
      cases h
      exact ⟨if_neg hb, Nat.le_refl _⟩

/-- A fraction and an exponent that can be read are passed over. -/
private theorem skipFraction_of_read {fraction : Option Bytes} {exponent : Option (Bool × Bytes)}
    (hf : readFraction s = .ok (fraction, r)) (he : readExponent r = .ok (exponent, rest)) :
    skipFraction s = .ok rest ∧ rest.length ≤ s.length := by
  obtain ⟨hskip, hle⟩ := skipExponent_of_read he
  unfold readFraction at hf
  split at hf
  next =>
    cases hf
    exact ⟨hskip, hle⟩
  next b s =>
    split at hf
    next hb =>
      split at hf
      next => cases hf
      next => cases hf
      next digits hsome _ hread =>
        cases hf
        have hlength : r.length ≤ s.length := by
          rw [← show (readDigits s).2 = r by rw [hread]]
          exact List.length_dropWhile_le isDigit s
        refine ⟨?_, Nat.le_succ_of_le (Nat.le_trans hle hlength)⟩
        simp only [skipFraction, if_pos hb, hread]
        exact hskip
    next hb =>
      cases hf
      exact ⟨(if_neg hb).trans hskip, hle⟩

/-- What follows the sign of a number, if it has one. -/
def afterMinus : Bytes → Bytes
  | [] => []
  | b :: s => if b = byte '-' then s else b :: s

/-- Passes over a number without a sign. -/
def skipUnsigned : Bytes → Except Refusal Bytes
  | [] => .error ⟨.badNumber, []⟩
  | b :: s =>
    if b = byte '0' then
      match s with
      | c :: _ => if isDigit c then refuseAt .badNumber s else skipFraction s
      | [] => .ok []
    else if isDigit b then skipFraction (s.dropWhile isDigit)
    else .error ⟨.badNumber, s⟩

/-- The sign of a numeral is skipped first. -/
private theorem skipNumber_eq (s : Bytes) : skipNumber s = skipUnsigned (afterMinus s) := by
  cases s <;> rfl

private theorem length_afterMinus_le (s : Bytes) : (afterMinus s).length ≤ s.length := by
  unfold afterMinus
  split
  next => exact Nat.le_refl _
  next b s =>
    split
    next => exact Nat.le_succ _
    next => exact Nat.le_refl _

/-- The digits before the point are passed over. -/
private theorem skipUnsigned_of_readWhole {whole : Bytes} (h : readWhole s = .ok (whole, r)) :
    skipUnsigned s = skipFraction r ∧ r.length < s.length := by
  unfold readWhole at h
  split at h
  next => cases h
  next b s =>
    split at h
    next hzero =>
      split at h
      next c t =>
        split at h
        next => cases h
        next hc =>
          cases h
          exact ⟨by simp [skipUnsigned, hzero, hc], Nat.lt_succ_self _⟩
      next =>
        cases h
        exact ⟨by simp [skipUnsigned, hzero, skipFraction], Nat.lt_succ_self _⟩
    next hzero =>
      split at h
      next hdigit =>
        cases h
        have hle := List.length_dropWhile_le isDigit s
        exact ⟨by simp [skipUnsigned, hzero, hdigit], Nat.lt_succ_of_le hle⟩
      next => cases h

/-- A number that can be read is passed over. -/
theorem skipNumber_of_read {n : Number} (h : readNumber s = .ok (n, rest)) :
    skipNumber s = .ok rest ∧ rest.length < s.length := by
  simp only [readNumber, bind_eq_ok, pure, Except.pure, Except.ok.injEq,
    Prod.mk.injEq, Prod.exists] at h
  obtain ⟨whole, r₁, hwhole, fraction, r₂, hfraction, exponent, r₃, hexponent, _, _, rfl, rfl⟩ := h
  -- the reader keeps the sign beside the text, and only the text matters here
  replace hwhole : readWhole (afterMinus s) = .ok (whole, r₁) := by
    cases s with
    | nil => exact hwhole
    | cons b s =>
      rw [apply_ite Prod.snd] at hwhole
      exact hwhole
  obtain ⟨hskip, hlt⟩ := skipUnsigned_of_readWhole hwhole
  obtain ⟨hskip', hle⟩ := skipFraction_of_read hfraction hexponent
  refine ⟨by rw [skipNumber_eq, hskip, hskip'], ?_⟩
  exact Nat.lt_of_le_of_lt hle (Nat.lt_of_lt_of_le hlt (length_afterMinus_le s))

end Deployer.Json
