import Deployer.Proofs.Limiter.Bucket
import Mathlib

/-!
# The limiter in words of 64 bits

A limiter counts in natural numbers, a machine in words of 64 bits, whose sums and products are taken
modulo `2 ^ 64`. `WordLimiter` is the limiter that a machine computes. It is the same limiter as long as a
whole burst fits a word (`toNat_tolerance`) and the clock leaves room for one more burst (`check_eq`).

What is added up is no larger than that because of the admission test alone: a call is admitted only if
the schedule is within the tolerance of the clock, so one interval more is within a burst of it. Between
calls the schedule stays where it is while the clock goes on, so a burst beyond the latest call is a bound
for it at any time (`Gate.Sound`).
-/

namespace Deployer

/-- What checks at some instants are answered, one after another, each with the limiter after it. -/
def answers {L T : Type} (check : L → T → Verdict × L) : L → List T → List (Verdict × L)
  | _, [] => []
  | l, now :: later => check l now :: answers check (check l now).2 later

/-! ### How far the schedule gets -/

section

variable {l : Limiter} {now later : Duration}

/-- As the clock goes on, a schedule within a burst of it stays so. -/
theorem Gate.Sound.mono (h : Gate.Sound ⟨l, now⟩) (hle : now ≤ later) : Gate.Sound ⟨l, later⟩ := by
  have hwait := (h.step_eq (.wait (later - now))).2.2
  rwa [Gate.step, Nat.add_sub_cancel' hle] at hwait

/-- What a sound limiter keeps of its schedule is within a burst of the clock. -/
theorem Gate.Sound.arrival_le (h : Gate.Sound ⟨l, now⟩) :
    ∀ arrival ∈ l.arrival, arrival ≤ now + l.quota.capacity := by
  intro arrival harrival
  rw [Gate.Sound, Gate.lead, Limiter.arrivalAt, Option.mem_def.mp harrival, Option.getD_some] at h
  dsimp only at h
  lia

/-- **Bound.** When checks come one after another, the schedule is never further than a burst beyond the
latest of them, whether they are admitted or not. -/
theorem Limiter.arrival_le_of_answers {instants : List Duration} (h : Gate.Sound ⟨l, now⟩)
    (hordered : (now :: instants).Pairwise (· ≤ ·)) :
    List.Forall₂ (fun now answer => ∀ arrival ∈ answer.2.arrival, arrival ≤ now + l.quota.capacity)
      instants (answers check l instants) := by
  induction instants generalizing l now with
  | nil => exact .nil
  | cons next rest ih =>
    obtain ⟨hnow, hrest⟩ := List.pairwise_cons.mp hordered
    have hquota := l.quota_check next
    have hsound : Gate.Sound ⟨(l.check next).2, next⟩ :=
      ((h.mono (hnow next List.mem_cons_self)).step_eq .check).2.2
    exact .cons (hquota ▸ hsound.arrival_le) (hquota ▸ ih hsound hrest)

end

/-! ### Words -/

/-- A limiter whose schedule is a word of 64 bits, and which computes modulo `2 ^ 64`. -/
structure WordLimiter where
  quota : Quota
  arrival : Option UInt64

namespace WordLimiter

/-- A limiter that has seen no call. -/
def fresh (quota : Quota) : WordLimiter := ⟨quota, none⟩

/-- The refill interval. -/
def refill (l : WordLimiter) : UInt64 := .ofNat l.quota.refill

/-- How far the schedule may be ahead of the clock when a call is admitted. -/
def tolerance (l : WordLimiter) : UInt64 := l.refill * (.ofNat l.quota.burst - 1)

/-- The schedule as a call at an instant finds it. -/
def arrivalAt (l : WordLimiter) (now : UInt64) : UInt64 := l.arrival.getD now

/-- The first instant at which a call would be admitted; the subtraction stops at zero. -/
def earliest (l : WordLimiter) (now : UInt64) : UInt64 :=
  if l.tolerance ≤ l.arrivalAt now then l.arrivalAt now - l.tolerance else 0

/-- The verdict on a call at an instant, and the limiter after it. -/
def check (l : WordLimiter) (now : UInt64) : Verdict × WordLimiter :=
  if now < l.earliest now then (.rejected (l.earliest now - now).toNat, l)
  else (.admitted, { l with arrival := some (max (l.arrivalAt now) now + l.refill) })

/-- The limiter that a limiter in words stands for. -/
def limiter (l : WordLimiter) : Limiter := ⟨l.quota, l.arrival.map UInt64.toNat⟩

variable {l : WordLimiter} {now : UInt64}

/-! ### Nothing wraps around -/

/-- A refill interval fits a word if a whole burst does. -/
private theorem toNat_refill (h : l.quota.capacity < 2 ^ 64) : l.refill.toNat = l.quota.refill := by
  have hle : l.quota.refill ≤ l.quota.capacity := Nat.le_mul_of_pos_right _ l.quota.burst_pos
  exact UInt64.toNat_ofNat_of_lt' (Nat.lt_of_le_of_lt hle h)

/-- The product is less than a burst of intervals. -/
theorem toNat_tolerance (h : l.quota.capacity < 2 ^ 64) :
    l.tolerance.toNat = l.limiter.quota.tolerance := by
  have hburst : l.quota.burst ≤ l.quota.capacity := Nat.le_mul_of_pos_left _ l.quota.refill_pos
  have hpos := l.quota.burst_pos
  have hword : (UInt64.ofNat l.quota.burst - 1).toNat = l.quota.burst - 1 := by
    have hofNat : (UInt64.ofNat l.quota.burst).toNat = l.quota.burst :=
      UInt64.toNat_ofNat_of_lt' (Nat.lt_of_le_of_lt hburst h)
    rw [UInt64.toNat_sub_of_le, hofNat]
    · rfl
    · rw [UInt64.le_iff_toNat_le, hofNat]
      exact hpos
  have hle := l.quota.tolerance_add_refill_eq_capacity
  rw [tolerance, UInt64.toNat_mul, toNat_refill h, hword]
  exact Nat.mod_eq_of_lt (Nat.lt_of_le_of_lt (Nat.le.intro hle) h)

/-- A call at a word finds the same schedule. -/
private theorem toNat_arrivalAt (l : WordLimiter) (now : UInt64) :
    (l.arrivalAt now).toNat = l.limiter.arrivalAt now.toNat := by
  rw [arrivalAt, Limiter.arrivalAt, limiter]
  cases l.arrival <;> rfl

/-- The subtraction that stops at zero is that of natural numbers. -/
private theorem toNat_earliest (h : l.quota.capacity < 2 ^ 64) (now : UInt64) :
    (l.earliest now).toNat = l.limiter.earliest now.toNat := by
  rw [earliest, Limiter.earliest, ← toNat_arrivalAt, ← toNat_tolerance h]
  split_ifs with hle
  · exact UInt64.toNat_sub_of_le _ _ hle
  · rw [UInt64.le_iff_toNat_le] at hle
    exact (Nat.sub_eq_zero_of_le (Nat.le_of_not_le hle)).symm

/-- Words are ordered as the numbers that they stand for. -/
private theorem toNat_max (a b : UInt64) : (max a b).toNat = max a.toNat b.toNat := by
  change (if a ≤ b then b else a).toNat = _
  rw [Nat.max_def, apply_ite UInt64.toNat]
  simp only [UInt64.le_iff_toNat_le]

/-- **A limiter in words is the limiter as it is kept**, at every instant that is a word. -/
theorem check_eq_ask (h : l.quota.capacity < 2 ^ 64) (now : UInt64) :
    (l.check now).map id limiter = l.limiter.ask now.toNat := by
  have hearliest := toNat_earliest h now
  have hiff : now < l.earliest now ↔
      now.toNat + l.limiter.quota.tolerance < l.limiter.arrivalAt now.toNat := by
    rw [UInt64.lt_iff_toNat_lt, hearliest, Limiter.lt_earliest_iff]
  rcases Nat.lt_or_ge (now.toNat + l.limiter.quota.tolerance) (l.limiter.arrivalAt now.toNat)
    with hlt | hle
  · have hwait : (l.earliest now - now).toNat =
        l.limiter.arrivalAt now.toNat - l.limiter.quota.tolerance - now.toNat := by
      rw [UInt64.toNat_sub_of_le _ _ (UInt64.le_of_lt (hiff.mpr hlt)), hearliest, Limiter.earliest]
    rw [check, if_pos (hiff.mpr hlt), hwait, Limiter.ask_of_lt hlt]
    rfl
  · -- what wraps around in this sum is what does not fit
    have hnext : (max (l.arrivalAt now) now + l.refill).toNat =
        (max (l.limiter.arrivalAt now.toNat) now.toNat + l.limiter.quota.refill) % UInt64.size := by
      rw [UInt64.toNat_add, toNat_max, toNat_arrivalAt, toNat_refill h]
      rfl
    rw [check, if_neg (mt hiff.mp (Nat.not_lt.mpr hle)), Limiter.ask_of_le hle]
    exact congrArg (fun arrival => (Verdict.admitted, (⟨l.quota, some arrival⟩ : Limiter))) hnext

/-- **Step.** While the clock leaves room for a burst, a limiter in words gives the verdict of the limiter
that it stands for, and stands for the limiter after it. -/
theorem check_eq (h : l.quota.capacity < 2 ^ 64) (hroom : now.toNat ≤ 2 ^ 64 - 1 - l.quota.capacity) :
    (l.check now).map id limiter = l.limiter.check now.toNat := by
  have hsize : (2 : Nat) ^ 64 = UInt64.size := rfl
  rw [check_eq_ask h]
  refine Limiter.ask_eq_check (l := l.limiter) ?_
  change now.toNat + l.quota.capacity < UInt64.size
  lia

/-- The quota is never changed. -/
private theorem quota_check (l : WordLimiter) (now : UInt64) : (l.check now).2.quota = l.quota := by
  rw [check]
  split <;> rfl

/-- **Run.** While the clock leaves room for a burst, a limiter in words answers as the limiter that it
stands for. -/
theorem map_answers (h : l.quota.capacity < 2 ^ 64) {instants : List Duration}
    (hroom : ∀ now ∈ instants, now ≤ 2 ^ 64 - 1 - l.quota.capacity) :
    (answers check l (instants.map .ofNat)).map (Prod.map id limiter) =
      answers Limiter.check l.limiter instants := by
  induction instants generalizing l with
  | nil => rfl
  | cons now later ih =>
    obtain ⟨hnow, hlater⟩ := List.forall_mem_cons.mp hroom
    -- an instant that leaves room for a burst is a word
    have hword : (UInt64.ofNat now).toNat = now :=
      UInt64.toNat_ofNat_of_lt' (show now < 2 ^ 64 by lia)
    have hcheck := check_eq h (hword.symm ▸ hnow)
    have hquota := l.quota_check (.ofNat now)
    rw [hword] at hcheck
    rw [List.map_cons, answers, answers, List.map_cons, hcheck, ← hcheck]
    exact congrArg (_ :: ·) (ih (hquota ▸ h) (hquota ▸ hlater))

/-- **The arithmetic of a limiter in words never wraps around.** If a burst fits a word, and checks come
one after another while the clock leaves room for a burst, then the schedule is never further than a burst
beyond the latest check, and the verdicts, the waits and the schedules are those of natural numbers. -/
theorem map_answers_fresh (q : Quota) (hburst : q.refill * q.burst < 2 ^ 64) (instants : List Duration)
    (hordered : instants.Pairwise (· ≤ ·))
    (hroom : ∀ now ∈ instants, now ≤ 2 ^ 64 - 1 - q.refill * q.burst) :
    let words := answers check (fresh q) (instants.map .ofNat)
    words.map (Prod.map id limiter) = answers Limiter.check (.fresh q) instants ∧
      List.Forall₂
        (fun now answer => ∀ arrival ∈ answer.2.arrival, arrival.toNat ≤ now + q.refill * q.burst)
        instants words := by
  intro words
  have heq : words.map (Prod.map id limiter) = answers Limiter.check (.fresh q) instants :=
    map_answers (l := fresh q) hburst hroom
  have hbound := Limiter.arrival_le_of_answers (Gate.sound_fresh q 0)
    (List.pairwise_cons.mpr ⟨fun _ _ => Nat.zero_le _, hordered⟩)
  refine ⟨heq, ?_⟩
  change List.Forall₂ _ instants (answers Limiter.check (.fresh q) instants) at hbound
  rw [← heq, List.forall₂_map_right_iff] at hbound
  exact hbound.imp fun _ _ h arrival harrival =>
    h (UInt64.toNat arrival) (Option.mem_map_of_mem UInt64.toNat harrival)

/-- On a quota of two calls and one for each 100 ms, a call at the last instant that leaves room for a
burst moves the schedule to the last word there is, if it uses up the burst. -/
theorem map_answers_fresh_last_word :
    let q : Quota := ⟨.ofMillis 100, 2, by decide, by decide⟩
    let last : Duration := 2 ^ 64 - 1 - .ofMillis 200
    let instants : List Duration := [0, last, last, last]
    let words := answers check (fresh q) (instants.map .ofNat)
    q.refill * q.burst < 2 ^ 64 ∧ instants.Pairwise (· ≤ ·) ∧
      (∀ now ∈ instants, now ≤ 2 ^ 64 - 1 - q.refill * q.burst) ∧
      words.map (·.1) = [.admitted, .admitted, .admitted, .rejected (.ofMillis 100)] ∧
      words.map (·.2.limiter.arrival) =
        [some 100000000, some (2 ^ 64 - 1 - 100000000), some (2 ^ 64 - 1), some (2 ^ 64 - 1)] ∧
      words.map (Prod.map id limiter) = answers Limiter.check (.fresh q) instants ∧
      List.Forall₂
        (fun now answer => ∀ arrival ∈ answer.2.arrival, arrival.toNat ≤ now + q.refill * q.burst)
        instants words := by
  intro q last instants words
  have hburst : q.refill * q.burst < 2 ^ 64 := by decide
  have hordered : instants.Pairwise (· ≤ ·) := by decide
  have hroom : ∀ now ∈ instants, now ≤ 2 ^ 64 - 1 - q.refill * q.burst := by decide
  exact ⟨hburst, hordered, hroom, by decide, by decide, map_answers_fresh q hburst instants hordered hroom⟩

/-- One nanosecond later the schedule wraps around, and a third call is admitted. -/
example :
    let q : Quota := ⟨.ofMillis 100, 2, by decide, by decide⟩
    let late : Duration := 2 ^ 64 - .ofMillis 200
    (answers check (fresh q) ([late, late, late].map .ofNat)).map (·.1) =
        [.admitted, .admitted, .admitted] ∧
      (answers Limiter.check (.fresh q) [late, late, late]).map (·.1) =
        [.admitted, .admitted, .rejected (.ofMillis 100)] := by
  decide

end WordLimiter

end Deployer
