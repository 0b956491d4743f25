import Deployer.Url.Punycode
import Mathlib.Data.List.TakeDrop
import Mathlib.Data.List.TakeWhile

/-!
# Punycode forms are read again

Every label is decoded from the form it is encoded in (`decode?_encode`).

Encoder and decoder count the same places. A text of `count` characters has `count + 1` places for one
more, and the places for each code point follow those for the code point before. The encoder goes through
the places in this order and counts how far it is from where the decoder stands (`Follows`): one place for
each character that is in the text already, and all places for a code point that does not occur. When it
comes to a character, the decoder steps over what was counted, and so inserts that character there
(`insertChars_writeStep`); and then both stand behind it.
-/

namespace Deployer.Url.Punycode

variable {c : Char} {label passed coming rest cs : List Char} {basic bias k m n i step weight : Nat}
  {e : Encoder} {ms : List Nat}

/-! ### Digits -/

private theorem digit?_digitChar : ∀ d < 36, digit? (digitChar d) = some d := by decide

/-- The characters that a step is written with. -/
def IsDigit (c : Char) : Prop := ∃ d < 36, c = digitChar d

/-- Steps are written in digits. -/
private theorem isDigit_of_mem_writeStep (h : c ∈ writeStep bias k step) : IsDigit c := by
  fun_induction writeStep bias k step with
  | case1 k step t hlt =>
    have ht : t ≤ 26 := threshold_le bias k
    exact ⟨step, by omega, List.mem_singleton.mp h⟩
  | case2 k step t hle ih =>
    have ht : t ≤ 26 := threshold_le bias k
    rcases List.mem_cons.mp h with rfl | h
    · have hmod : (step - t) % (36 - t) < 36 - t := Nat.mod_lt _ (by omega)
      exact ⟨_, by omega, rfl⟩
    · exact ih h

private theorem isDigit_of_mem_writeChar (h : c ∈ (writeChar basic n label e).1) : IsDigit c := by
  induction label generalizing e with
  | nil => cases h
  | cons d label ih =>
    unfold writeChar at h
    split at h
    · exact ih h
    · split at h
      · exact (List.mem_append.mp h).elim isDigit_of_mem_writeStep ih
      · exact ih h

private theorem isDigit_of_mem_writeChars (h : c ∈ writeChars basic label ms n e) : IsDigit c := by
  induction ms generalizing n e with
  | nil => cases h
  | cons m ms ih => exact (List.mem_append.mp h).elim isDigit_of_mem_writeChar ih

/-- A form has the ASCII characters of its label, hyphens, and digits. -/
theorem of_mem_encode (h : c ∈ encode label) :
    (c ∈ label ∧ isAscii c = true) ∨ c = '-' ∨ IsDigit c := by
  rcases List.mem_append.mp h with h | h
  · rcases List.mem_append.mp h with h | h
    · exact .inl (List.mem_filter.mp h)
    · split at h
      · cases h
      · exact .inr (.inl (List.mem_singleton.mp h))
  · exact .inr (.inr (isDigit_of_mem_writeChars h))

/-- **A step that is written is read again**, whatever follows it. -/
theorem readStep_writeStep (bias k weight step : Nat) (rest : List Char) :
    readStep bias k weight (writeStep bias k step ++ rest) = some (step * weight, rest) := by
  fun_induction writeStep bias k step generalizing weight with
  | case1 k step t hlt =>
    have ht : t ≤ 26 := threshold_le bias k
    rw [List.singleton_append, readStep, digit?_digitChar step (by omega)]
    exact if_pos hlt
  | case2 k step t hle ih =>
    have ht : t ≤ 26 := threshold_le bias k
    have hmod : (step - t) % (36 - t) < 36 - t := Nat.mod_lt _ (by omega)
    rw [List.cons_append, readStep, digit?_digitChar _ (by omega)]
    dsimp only
    rw [if_neg (by omega), ih, Option.map_some]
    -- the digit and what it leaves make up the step
    have hstep : t + (step - t) % (36 - t) + (step - t) / (36 - t) * (36 - t) = step := by
      have hdiv := Nat.mod_add_div' (step - t) (36 - t)
      omega
    have hsum : (t + (step - t) % (36 - t)) * weight +
        (step - t) / (36 - t) * (weight * (36 - t)) = step * weight := by
      rw [Nat.mul_comm weight, ← Nat.mul_assoc, ← Nat.add_mul, hstep]
    rw [hsum]

/-! ### Inserting one character -/

/-- A character is inserted behind those that were passed. -/
theorem insertIdx_append (passed coming : List Char) (c : Char) :
    (passed ++ coming).insertIdx passed.length c = passed ++ c :: coming := by
  induction passed with
  | nil => rfl
  | cons d passed ih => exact congrArg (d :: ·) ih

/-- The decoder goes on with the character that the step leads to. -/
private theorem insertChars_of_readStep {text : List Char}
    (h : readStep bias 36 1 cs = some (step, rest))
    (hvalid : (n + (i + step) / (text.length + 1)).isValidChar) :
    insertChars bias n i text cs =
      insertChars (adapt step (text.length + 1) (i == 0)) (n + (i + step) / (text.length + 1))
        ((i + step) % (text.length + 1) + 1)
        (text.insertIdx ((i + step) % (text.length + 1))
          (Char.ofNat (n + (i + step) / (text.length + 1)))) rest := by
  cases cs with
  | nil => cases h
  | cons c cs =>
    rw [insertChars]
    split
    next hnone => cases h.symm.trans hnone
    next heq =>
      cases h.symm.trans heq
      exact if_pos hvalid

/-- The encoder is at code point `m`, behind the characters `passed` of the text and before those that
are `coming`. The decoder **follows**: it stands at code point `n` and place `i`, and what it has to
step over is what the encoder has counted. -/
structure Follows (basic m : Nat) (passed coming : List Char) (n i : Nat) (e : Encoder) : Prop where
  count : e.count = (passed ++ coming).length
  distance : n * (e.count + 1) + (i + e.step) = m * (e.count + 1) + passed.length
  basic_le : basic ≤ e.count
  first : i = 0 ↔ e.count = basic

/-- **Insertion.** The decoder inserts a character where the encoder has come to it. -/
theorem insertChars_writeStep (h : Follows basic c.toNat passed coming n i e) (rest : List Char) :
    insertChars e.bias n i (passed ++ coming) (writeStep e.bias 36 e.step ++ rest) =
      insertChars (adapt e.step (e.count + 1) (e.count == basic)) c.toNat (passed.length + 1)
        (passed ++ c :: coming) rest := by
  have hplace : passed.length < e.count + 1 := by
    rw [h.count, List.length_append]
    omega
  -- code points times places: a quotient is the code point and a remainder the place
  have hcode : n + (i + e.step) / (e.count + 1) = c.toNat := by
    have hdiv := congrArg (· / (e.count + 1)) h.distance
    simp only [Nat.mul_comm _ (e.count + 1)] at hdiv
    rw [Nat.mul_add_div (by omega), Nat.mul_add_div (by omega), Nat.div_eq_of_lt hplace] at hdiv
    omega
  have hindex : (i + e.step) % (e.count + 1) = passed.length := by
    have hmod := congrArg (· % (e.count + 1)) h.distance
    simp only [Nat.mul_comm _ (e.count + 1)] at hmod
    rw [Nat.mul_add_mod, Nat.mul_add_mod, Nat.mod_eq_of_lt hplace] at hmod
    exact hmod
  have hread : readStep e.bias 36 1 (writeStep e.bias 36 e.step ++ rest) = some (e.step, rest) := by
    rw [readStep_writeStep, Nat.mul_one]
  have hfirst : (i == 0) = (e.count == basic) := by
    rw [Bool.eq_iff_iff, beq_iff_eq, beq_iff_eq]
    exact h.first
  have hvalid : c.toNat.isValidChar := c.valid
  rw [insertChars_of_readStep hread (by rw [← h.count, hcode]; exact hvalid), ← h.count, hcode, hindex,
    Char.ofNat_toNat, insertIdx_append, hfirst]

/-! ### Going through a label -/

theorem Follows.pass (h : Follows basic m passed (c :: coming) n i e) :
    Follows basic m (passed ++ [c]) coming n i { e with step := e.step + 1 } := by
  obtain ⟨hcount, hdistance, hle, hfirst⟩ := h
  refine ⟨by rw [hcount, List.append_assoc]; rfl, ?_, hle, hfirst⟩
  rw [List.length_append, List.length_singleton]
  dsimp only
  omega

theorem Follows.insert (h : Follows basic m passed coming n i e) (bias : Nat) :
    Follows basic m (passed ++ [c]) coming m (passed.length + 1) ⟨0, bias, e.count + 1⟩ := by
  obtain ⟨hcount, -, hle, -⟩ := h
  refine ⟨by simp [hcount]; omega, by simp, Nat.le_succ_of_le hle, ?_⟩
  exact iff_of_false (Nat.succ_ne_zero _) (Nat.ne_of_gt (Nat.lt_succ_of_le hle))

/-- Behind the last place for a code point comes the first one for the next. -/
theorem Follows.next (h : Follows basic m passed [] n i e) :
    Follows basic (m + 1) [] passed n i { e with step := e.step + 1 } := by
  obtain ⟨hcount, hdistance, hle, hfirst⟩ := h
  rw [List.append_nil] at hcount
  refine ⟨hcount, ?_, hle, hfirst⟩
  rw [Nat.add_mul, List.length_nil]
  dsimp only
  omega

/-- The steps over the code points that do not occur are counted at once. -/
theorem Follows.skip {m' : Nat} (h : Follows basic m [] coming n i e) (hle : m ≤ m') :
    Follows basic m' [] coming n i { e with step := e.step + (m' - m) * (e.count + 1) } := by
  obtain ⟨hcount, hdistance, hbasic, hfirst⟩ := h
  refine ⟨hcount, ?_, hbasic, hfirst⟩
  have hskip : (m' - m) * (e.count + 1) + m * (e.count + 1) = m' * (e.count + 1) := by
    rw [← Nat.add_mul, Nat.sub_add_cancel hle]
  dsimp only at hdistance ⊢
  omega

/-- **One code point.** While the encoder goes through the rest of a label and writes where `m` occurs,
the decoder inserts it there. -/
theorem exists_insertChars_writeChar
    (h : Follows basic m passed (cs.filter (·.toNat < m)) n i e) :
    ∃ n' i', Follows basic m (passed ++ cs.filter (·.toNat ≤ m)) [] n' i' (writeChar basic m cs e).2 ∧
      ∀ rest, insertChars e.bias n i (passed ++ cs.filter (·.toNat < m))
          ((writeChar basic m cs e).1 ++ rest) =
        insertChars (writeChar basic m cs e).2.bias n' i' (passed ++ cs.filter (·.toNat ≤ m)) rest := by
  induction cs generalizing passed n i e with
  | nil => exact ⟨n, i, (List.append_nil passed).symm ▸ h, fun _ => rfl⟩
  | cons c cs ih =>
    rcases Nat.lt_trichotomy c.toNat m with hlt | heq | hgt
    · -- the character is in the text already
      have hbelow : (c :: cs).filter (·.toNat < m) = c :: cs.filter (·.toNat < m) :=
        List.filter_cons_of_pos (decide_eq_true hlt)
      have hupto : (c :: cs).filter (·.toNat ≤ m) = c :: cs.filter (·.toNat ≤ m) :=
        List.filter_cons_of_pos (decide_eq_true (Nat.le_of_lt hlt))
      rw [hbelow] at h ⊢
      rw [hupto, writeChar, if_pos hlt, List.append_cons, List.append_cons passed c (cs.filter _)]
      exact ih h.pass
    · -- the character is inserted
      subst heq
      have hbelow : (c :: cs).filter (·.toNat < c.toNat) = cs.filter (·.toNat < c.toNat) :=
        List.filter_cons_of_neg (by simp)
      have hupto : (c :: cs).filter (·.toNat ≤ c.toNat) = c :: cs.filter (·.toNat ≤ c.toNat) :=
        List.filter_cons_of_pos (by simp)
      rw [hbelow] at h ⊢
      obtain ⟨n', i', hfollows, hread⟩ :=
        ih (h.insert (c := c) (adapt e.step (e.count + 1) (e.count == basic)))
      rw [hupto, writeChar, if_neg (Nat.lt_irrefl _), if_pos rfl, List.append_cons]
      refine ⟨n', i', hfollows, fun rest => ?_⟩
      dsimp only
      rw [List.append_assoc, insertChars_writeStep h, List.append_cons]
      exact hread rest
    · -- the character comes later
      have hbelow : (c :: cs).filter (·.toNat < m) = cs.filter (·.toNat < m) :=
        List.filter_cons_of_neg (by simp; omega)
      have hupto : (c :: cs).filter (·.toNat ≤ m) = cs.filter (·.toNat ≤ m) :=
        List.filter_cons_of_neg (by simp; omega)
      rw [hbelow] at h ⊢
      rw [hupto, writeChar, if_neg (by omega), if_neg (by omega)]
      exact ih h

/-- Nothing of a label lies between `n` and the next code point of the label. -/
private theorem filter_lt_eq (hlabel : ∀ c ∈ label, c.toNat < n ∨ c.toNat ∈ m :: ms) (hnm : n ≤ m)
    (hm : ∀ m' ∈ ms, m < m') : label.filter (·.toNat < n) = label.filter (·.toNat < m) := by
  refine List.filter_congr fun c hc => ?_
  rw [decide_eq_decide]
  rcases hlabel c hc with hlt | hmem
  · exact iff_of_true hlt (by omega)
  · have hge : m ≤ c.toNat := (List.mem_cons.mp hmem).elim (fun heq => Nat.le_of_eq heq.symm)
      fun hmem => Nat.le_of_lt (hm _ hmem)
    exact iff_of_false (by omega) (by omega)

/-- **All code points.** If the decoder has the characters of a label below `n`, it gets the others from
what the encoder writes for them. -/
theorem insertChars_writeChars {place : Nat} (hsorted : ms.Pairwise (· < ·)) (hle : ∀ m ∈ ms, n ≤ m)
    (hlabel : ∀ c ∈ label, c.toNat < n ∨ c.toNat ∈ ms)
    (h : Follows basic n [] (label.filter (·.toNat < n)) place i e) :
    insertChars e.bias place i (label.filter (·.toNat < n)) (writeChars basic label ms n e) =
      some label := by
  induction ms generalizing n place i e with
  | nil =>
    have hall : label.filter (·.toNat < n) = label :=
      List.filter_eq_self.mpr fun c hc =>
        decide_eq_true ((hlabel c hc).resolve_right List.not_mem_nil)
    rw [writeChars, insertChars, hall]
  | cons m ms ih =>
    obtain ⟨hm, hsorted⟩ := List.pairwise_cons.mp hsorted
    have hnm : n ≤ m := hle m List.mem_cons_self
    have hbelow := filter_lt_eq hlabel hnm hm
    -- the encoder goes on to the next code point, and counts the steps at once
    have hstart := h.skip hnm
    rw [hbelow] at hstart
    obtain ⟨place', i', hfollows, hread⟩ := exists_insertChars_writeChar hstart
    have hnext : label.filter (·.toNat ≤ m) = label.filter (·.toNat < m + 1) :=
      List.filter_congr fun c _ => by rw [decide_eq_decide]; omega
    rw [List.nil_append, hnext] at hfollows
    rw [writeChars, hbelow]
    refine (hread _).trans ?_
    rw [List.nil_append, hnext]
    refine ih hsorted hm (fun c hc => ?_) hfollows.next
    rcases hlabel c hc with hlt | hmem
    · exact .inl (by omega)
    · exact (List.mem_cons.mp hmem).imp_left fun heq => by omega

/-! ### The code points of a label -/

/-- What is inserted is on the list, with what was before. -/
private theorem mem_insertDistinct {x y : Nat} : y ∈ insertDistinct x ms ↔ y = x ∨ y ∈ ms := by
  induction ms with
  | nil => exact List.mem_cons
  | cons z ms ih =>
    unfold insertDistinct
    split
    · exact List.mem_cons
    · split
      next heq =>
        subst heq
        exact (or_iff_right_of_imp fun heq => heq ▸ List.mem_cons_self).symm
      next => rw [List.mem_cons, ih, List.mem_cons, or_left_comm]

/-- The list stays sorted, without repetition. -/
private theorem pairwise_insertDistinct {x : Nat} (h : ms.Pairwise (· < ·)) :
    (insertDistinct x ms).Pairwise (· < ·) := by
  induction ms with
  | nil => exact List.pairwise_singleton _ _
  | cons z ms ih =>
    obtain ⟨hz, hms⟩ := List.pairwise_cons.mp h
    unfold insertDistinct
    split
    next hlt =>
      refine List.pairwise_cons.mpr ⟨fun y hy => ?_, h⟩
      rcases List.mem_cons.mp hy with rfl | hy
      · exact hlt
      · exact Nat.lt_trans hlt (hz y hy)
    next hle =>
      split
      next => exact h
      next hne =>
        refine List.pairwise_cons.mpr ⟨fun y hy => ?_, ih hms⟩
        rcases mem_insertDistinct.mp hy with rfl | hy
        · omega
        · exact hz y hy

/-- The code points of some characters, in increasing order. -/
private theorem foldl_insertDistinct (h : ms.Pairwise (· < ·)) (cs : List Char) :
    (cs.foldl (fun ms c => insertDistinct c.toNat ms) ms).Pairwise (· < ·) ∧
      ∀ y, y ∈ cs.foldl (fun ms c => insertDistinct c.toNat ms) ms ↔
        y ∈ ms ∨ ∃ c ∈ cs, c.toNat = y := by
  induction cs generalizing ms with
  | nil => exact ⟨h, fun y => by simp⟩
  | cons c cs ih =>
    obtain ⟨hsorted, hmem⟩ := ih (pairwise_insertDistinct (x := c.toNat) h)
    refine ⟨hsorted, fun y => ?_⟩
    rw [List.foldl_cons, hmem, mem_insertDistinct]
    simp only [List.mem_cons, or_and_right, exists_or, exists_eq_left, eq_comm (a := y)]
    rw [or_assoc, or_left_comm]

/-! ### Forms -/

/-- A form is cut at its last hyphen. -/
theorem decode?_append {basic digits : List Char} (h : '-' ∉ digits) :
    decode? (basic ++ (if basic.isEmpty then [] else ['-']) ++ digits) =
      insertChars 72 128 0 basic digits := by
  have hdigits : ∀ c ∈ digits.reverse, (c != '-') = true := fun c hc =>
    bne_iff_ne.mpr fun heq => h (heq ▸ List.mem_reverse.mp hc)
  cases basic with
  | nil =>
    have hspan : digits.reverse.span (· != '-') = (digits.reverse, []) := by
      rw [List.span_eq_takeWhile_dropWhile, List.takeWhile_eq_self_iff.mpr hdigits,
        List.dropWhile_eq_nil_iff.mpr hdigits]
    rw [List.isEmpty_nil, if_pos rfl, List.nil_append, List.nil_append, decode?, hspan]
    dsimp only
    rw [List.reverse_reverse]
  | cons b basic =>
    have hspan : (b :: basic ++ ['-'] ++ digits).reverse.span (· != '-') =
        (digits.reverse, '-' :: (b :: basic).reverse) := by
      rw [List.reverse_append, List.reverse_append, List.span_eq_takeWhile_dropWhile,
        List.takeWhile_append_of_pos hdigits, List.dropWhile_append_of_pos hdigits]
      simp
    rw [List.isEmpty_cons, if_neg Bool.false_ne_true, decode?, hspan]
    dsimp only
    rw [List.reverse_reverse, List.reverse_reverse]

/-- **Every label is decoded from its form.** -/
theorem decode?_encode (label : List Char) : decode? (encode label) = some label := by
  have hothers := foldl_insertDistinct .nil (label.filter (!isAscii ·))
  rw [encode]
  generalize (label.filter (!isAscii ·)).foldl (fun ms c => insertDistinct c.toNat ms) [] = others
    at hothers ⊢
  obtain ⟨hsorted, hmem⟩ := hothers
  have hbeyond (m : Nat) (hm : m ∈ others) : 128 ≤ m := by
    obtain ⟨c, hc, rfl⟩ := ((hmem m).mp hm).resolve_left List.not_mem_nil
    have hascii := (List.mem_filter.mp hc).2
    simp only [isAscii, Bool.not_eq_true', decide_eq_false_iff_not] at hascii
    omega
  have hlabel (c : Char) (hc : c ∈ label) : c.toNat < 128 ∨ c.toNat ∈ others := by
    by_cases hascii : c.toNat < 128
    · exact .inl hascii
    · exact .inr ((hmem _).mpr (.inr ⟨c, List.mem_filter.mpr ⟨hc, by simpa [isAscii] using hascii⟩, rfl⟩))
  have hhyphen : '-' ∉ writeChars (label.filter isAscii).length label others 128
      ⟨0, 72, (label.filter isAscii).length⟩ := fun hmem => by
    obtain ⟨d, hd, heq⟩ := isDigit_of_mem_writeChars hmem
    have hall : ∀ d < 36, '-' ≠ digitChar d := by decide
    exact hall d hd heq
  have hfollows : Follows (label.filter isAscii).length 128 [] (label.filter (·.toNat < 128)) 128 0
      ⟨0, 72, (label.filter isAscii).length⟩ :=
    ⟨rfl, rfl, Nat.le_refl _, iff_of_true rfl rfl⟩
  exact (decode?_append hhyphen).trans (insertChars_writeChars hsorted hbeyond hlabel hfollows)

/-! ### How long a form is -/

private theorem length_writeStep_pos (bias k step : Nat) : 0 < (writeStep bias k step).length := by
  unfold writeStep
  dsimp only
  split <;> exact Nat.succ_pos _

/-- A step that is not below the greatest threshold takes one digit, and then those of what is left. -/
private theorem exists_length_writeStep (bias k : Nat) (h : 26 ≤ step) : ∃ left,
    (writeStep bias k step).length = (writeStep bias (k + 36) left).length + 1 ∧
      (936 ≤ step → 26 ≤ left) := by
  have ht := threshold_le bias k
  refine ⟨(step - threshold bias k) / (36 - threshold bias k), ?_, fun hstep => ?_⟩
  · rw [writeStep, if_neg (by omega), List.length_cons]
  · rw [Nat.le_div_iff_mul_le (by omega), Nat.mul_sub]
    omega

/-- A step over many places takes three digits, whatever the bias. -/
private theorem three_le_length_writeStep (bias k : Nat) (h : 936 ≤ step) :
    3 ≤ (writeStep bias k step).length := by
  obtain ⟨left, hlength, hleft⟩ := exists_length_writeStep bias k (by omega : 26 ≤ step)
  obtain ⟨left', hlength', -⟩ := exists_length_writeStep bias (k + 36) (hleft h)
  have hpos := length_writeStep_pos bias (k + 36 + 36) left'
  omega

/-- Writing a character counts no fewer characters than before. -/
private theorem count_le_writeChar : e.count ≤ (writeChar basic m label e).2.count := by
  induction label generalizing e with
  | nil => exact Nat.le_refl _
  | cons c label ih =>
    unfold writeChar
    split
    · exact ih (e := { e with step := e.step + 1 })
    · split
      · exact Nat.le_trans (Nat.le_succ _) (ih (e := ⟨0, _, e.count + 1⟩))
      · exact ih

/-- Where a code point first occurs, at least the step so far is written. -/
private theorem exists_length_writeChar (basic : Nat) (h : ∃ c ∈ label, c.toNat = m) :
    ∃ bias step, e.step ≤ step ∧
      (writeStep bias 36 step).length ≤ (writeChar basic m label e).1.length ∧
        e.count < (writeChar basic m label e).2.count := by
  induction label generalizing e with
  | nil => exact absurd h (by simp)
  | cons c label ih =>
    have hlater (hne : c.toNat ≠ m) : ∃ c ∈ label, c.toNat = m := by
      obtain ⟨d, hd, heq⟩ := h
      rcases List.mem_cons.mp hd with rfl | hd
      · exact absurd heq hne
      · exact ⟨d, hd, heq⟩
    unfold writeChar
    split
    next hlt =>
      obtain ⟨bias, step, hstep, hlength⟩ :=
        ih (e := { e with step := e.step + 1 }) (hlater (Nat.ne_of_lt hlt))
      exact ⟨bias, step, Nat.le_of_succ_le hstep, hlength⟩
    next =>
      split
      next =>
        refine ⟨e.bias, e.step, Nat.le_refl _, ?_, count_le_writeChar (e := ⟨0, _, e.count + 1⟩)⟩
        exact (List.prefix_append _ _).length_le
      next hne => exact ih (hlater hne)

/-- Each code point takes three digits as soon as `limit` characters have been written, if the code points
lie so far apart that there are many places between them. -/
private theorem length_writeChars {gap limit : Nat} (basic : Nat) (hlimit : 936 ≤ gap * limit)
    (hgap : ms.Pairwise fun m m' => m + gap < m') (hn : ∀ m ∈ ms, n + gap ≤ m)
    (hlabel : ∀ m ∈ ms, ∃ c ∈ label, c.toNat = m) :
    3 * ms.length ≤ (writeChars basic label ms n e).length + 2 * (limit - (e.count + 1)) := by
  induction ms generalizing n e with
  | nil => exact Nat.zero_le _
  | cons m ms ih =>
    obtain ⟨hm, hgap⟩ := List.pairwise_cons.mp hgap
    obtain ⟨hnm, -⟩ := List.forall_mem_cons.mp hn
    obtain ⟨hmem, hlabel⟩ := List.forall_mem_cons.mp hlabel
    obtain ⟨bias, step, hstep, hlength, hcount⟩ := exists_length_writeChar basic
      (e := { e with step := e.step + (m - n) * (e.count + 1) }) hmem
    rw [writeChars]
    dsimp only at hstep hcount ⊢
    generalize writeChar basic m label { e with step := e.step + (m - n) * (e.count + 1) } = written at *
    have hrest := ih (n := m + 1) (e := { written.2 with step := written.2.step + 1 }) hgap
      (fun m' hm' => by have hlt := hm m' hm'; omega) hlabel
    have hpos := length_writeStep_pos bias 36 step
    rw [List.length_cons, List.length_append]
    dsimp only at hrest
    by_cases hmany : limit ≤ e.count + 1
    · have hplaces : gap * limit ≤ (m - n) * (e.count + 1) := Nat.mul_le_mul (by omega) hmany
      have hthree := three_le_length_writeStep bias 36 (by omega : 936 ≤ step)
      omega
    · omega

private theorem insertDistinct_of_lt {x : Nat} (h : ∀ y ∈ ms, y < x) :
    insertDistinct x ms = ms ++ [x] := by
  induction ms with
  | nil => rfl
  | cons y ms ih =>
    obtain ⟨hy, hms⟩ := List.forall_mem_cons.mp h
    rw [insertDistinct, if_neg (by omega), if_neg (by omega), ih hms, List.cons_append]

private theorem foldl_insertDistinct_of_pairwise (h : (ms ++ cs.map Char.toNat).Pairwise (· < ·)) :
    cs.foldl (fun ms c => insertDistinct c.toNat ms) ms = ms ++ cs.map Char.toNat := by
  induction cs generalizing ms with
  | nil => exact (List.append_nil ms).symm
  | cons c cs ih =>
    rw [List.map_cons, List.append_cons] at h
    have hlt : ∀ y ∈ ms, y < c.toNat := fun y hy =>
      (List.pairwise_append.mp (List.pairwise_append.mp h).1).2.2 y hy _ List.mem_cons_self
    rw [List.foldl_cons, insertDistinct_of_lt hlt, ih h, List.map_cons, ← List.append_cons]

/-- **How long a form is at least**, if the characters of the label lie apart. -/
theorem length_encode (gap limit : Nat) (hlimit : 936 ≤ gap * limit)
    (hgap : label.Pairwise fun c d => c.toNat + gap < d.toNat)
    (hbeyond : ∀ c ∈ label, 128 + gap ≤ c.toNat) :
    3 * label.length ≤ (encode label).length + 2 * limit := by
  have hascii : label.filter (!isAscii ·) = label := List.filter_eq_self.mpr fun c hc => by
    have hle := hbeyond c hc
    simp only [isAscii, Bool.not_eq_true', decide_eq_false_iff_not]
    omega
  have hincreasing : (label.map Char.toNat).Pairwise (· < ·) :=
    List.pairwise_map.mpr (hgap.imp fun h => by omega)
  have hothers : (label.filter (!isAscii ·)).foldl (fun ms c => insertDistinct c.toNat ms) [] =
      label.map Char.toNat := by
    rw [hascii]
    exact foldl_insertDistinct_of_pairwise hincreasing
  have hlength := length_writeChars (label.filter isAscii).length
    (e := ⟨0, 72, (label.filter isAscii).length⟩) hlimit (List.pairwise_map.mpr hgap)
    (fun m hm => by obtain ⟨c, hc, rfl⟩ := List.mem_map.mp hm; exact hbeyond c hc)
    (fun m hm => List.mem_map.mp hm)
  rw [encode, hothers, List.length_append]
  rw [List.length_map] at hlength
  omega

end Deployer.Url.Punycode
