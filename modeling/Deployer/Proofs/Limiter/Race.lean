import Deployer.Proofs.Limiter.Window
import Mathlib.Logic.Function.Basic

/-!
# Callers that race for a limiter

A caller takes a reading of the clock first, and its check reaches the limiter later. In between the
clock may go on and other callers may come first, so the checks arrive in any order, and the readings
that they carry go back and forth in time. What a check does to the limiter is one step: callers never
see a limiter that has been changed in part.

* `Race.run` is a run of any number of callers, under any schedule of what happens next.
* `Race.sound_run`: the limiter accounts for the checks that it has admitted, whatever the schedule.
* `Race.run_ask_eq`: nothing of the limiter's schedule is lost as long as the clock leaves room for a
  burst, since no reading is later than the clock.
* `Race.admitted_inWindow_le`: the admitted checks whose readings lie in a window number at most a
  burst, and one for each refill interval in the window.

The bound is on the readings, not on the instants at which the checks arrive: a check that arrives
late counts where its reading lies. How long a rejected caller is told to wait is left out here; it
depends on the clock at the time of the answer.
-/

namespace Deployer

/-- Callers that share a limiter: the clock, the limiter, the reading that each caller holds, and the
readings of the checks that were admitted, in the order of their arrival. -/
structure Race (ι : Type) where
  clock : Duration
  limiter : Limiter
  reading : ι → Option Duration
  admitted : List Duration

namespace Race

variable {ι : Type}

/-- The race when nobody has called, at some instant. -/
def start (q : Quota) (clock : Duration) : Race ι := ⟨clock, .fresh q, fun _ => none, []⟩

/-- What happens next: time passes, a caller takes a reading of the clock, or the check of a caller
reaches the limiter. -/
inductive Move (ι : Type) where
  | advance (time : Duration)
  | read (caller : ι)
  | check (caller : ι)

/-- The limiter is on a quota and accounts for the checks that it has admitted. -/
structure Sound (q : Quota) (race : Race ι) : Prop where
  quota : race.limiter.quota = q
  accounts : race.limiter.Accounts race.admitted

variable {q : Quota} {race : Race ι}

/-- Before the first check there is nothing to account for. -/
private theorem sound_start (q : Quota) (clock : Duration) : Sound q (start q clock : Race ι) :=
  ⟨rfl, Limiter.accounts_nil _⟩

/-- No reading that is held is later than the clock. -/
def Held (race : Race ι) : Prop := ∀ caller now, race.reading caller = some now → now ≤ race.clock

/-- Nobody holds a reading before the race. -/
private theorem held_start (q : Quota) (clock : Duration) : (start q clock : Race ι).Held := by
  rintro _ _ ⟨⟩

section

variable [DecidableEq ι]

/-- The race after a check was made for a caller at some reading, and answered. -/
def arrive (answer : Limiter → Duration → Verdict × Limiter) (race : Race ι) (caller : ι)
    (now : Duration) : Race ι :=
  let (verdict, limiter) := answer race.limiter now
  { race with
    limiter
    reading := Function.update race.reading caller none
    admitted := match verdict with
      | .admitted => race.admitted ++ [now]
      | .rejected _ => race.admitted }

/-- The race after a move. A caller that holds no reading has no check to make. -/
def step (answer : Limiter → Duration → Verdict × Limiter) (race : Race ι) : Move ι → Race ι
  | .advance time => { race with clock := race.clock + time }
  | .read caller => { race with reading := Function.update race.reading caller (some race.clock) }
  | .check caller =>
    match race.reading caller with
    | some now => race.arrive answer caller now
    | none => race

/-- The race after moves, one after another. -/
def run (answer : Limiter → Duration → Verdict × Limiter) (race : Race ι)
    (schedule : List (Move ι)) : Race ι := schedule.foldl (step answer) race

/-! ### The books of a race -/

/-- A check keeps the books right, whatever its reading: it need not be later than the readings of
the checks before it. -/
theorem Sound.arrive (h : Sound q race) (caller : ι) (now : Duration) :
    Sound q (race.arrive Limiter.check caller now) := by
  have hquota : (race.arrive Limiter.check caller now).limiter.quota = q :=
    (race.limiter.quota_check now).trans h.quota
  refine ⟨hquota, ?_⟩
  rcases race.limiter.check_cases now with ⟨wait, hrejected⟩ | ⟨hle, hadmitted⟩
  · simpa only [Race.arrive, hrejected] using h.accounts
  · simpa only [Race.arrive, hadmitted] using h.accounts.admit hle

/-- **Step.** Every move keeps the books right. -/
theorem Sound.step (h : Sound q race) (move : Move ι) : Sound q (race.step Limiter.check move) := by
  cases move with
  | advance time => exact ⟨h.quota, h.accounts⟩
  | read caller => exact ⟨h.quota, h.accounts⟩
  | check caller =>
    cases hreading : race.reading caller with
    | none => simpa only [Race.step, hreading] using h
    | some now => simpa only [Race.step, hreading] using h.arrive caller now

/-- **Run.** The books are right after every schedule. -/
theorem sound_run (h : Sound q race) (schedule : List (Move ι)) :
    Sound q (race.run Limiter.check schedule) := by
  induction schedule generalizing race with
  | nil => exact h
  | cons move schedule ih => exact ih (h.step move)

/-! ### Nothing of the schedule is lost -/

/-- Readings stay within a limit when one of them is replaced by another that is. -/
private theorem le_of_update {reading : ι → Option Duration} {limit : Duration} {caller : ι}
    {new : Option Duration} (h : ∀ caller now, reading caller = some now → now ≤ limit)
    (hnew : ∀ now, new = some now → now ≤ limit) (other : ι) (now : Duration)
    (hother : Function.update reading caller new other = some now) : now ≤ limit := by
  by_cases heq : other = caller
  · subst heq
    rw [Function.update_self] at hother
    exact hnew now hother
  · rw [Function.update_of_ne heq] at hother
    exact h other now hother

/-- A caller takes its reading off the clock, and holds none after its check. -/
theorem Held.step (h : race.Held) (answer : Limiter → Duration → Verdict × Limiter) (move : Move ι) :
    (race.step answer move).Held := by
  cases move with
  | advance time => exact fun caller now hreading => Nat.le_add_right_of_le (h caller now hreading)
  | read caller => exact le_of_update h fun _ hnow => Nat.le_of_eq (Option.some.inj hnow).symm
  | check caller =>
    cases hreading : race.reading caller with
    | none => simpa only [Race.step, hreading] using h
    | some now =>
      -- a caller whose check has arrived holds no reading any more
      have hnone : ∀ now, (none : Option Duration) = some now → now ≤ race.clock := by
        rintro _ ⟨⟩
      have hstep : race.step answer (.check caller) = race.arrive answer caller now := by
        simp only [Race.step, hreading]
      rw [hstep]
      exact le_of_update h hnone

/-- No move turns back the clock of a race. -/
private theorem clock_le_step (answer : Limiter → Duration → Verdict × Limiter) (race : Race ι)
    (move : Move ι) : race.clock ≤ (race.step answer move).clock := by
  cases move with
  | advance time => exact Nat.le_add_right _ _
  | read caller => exact Nat.le_refl _
  | check caller =>
    rw [step]
    split <;> exact Nat.le_refl _

/-- The clock of a race does not go back. -/
private theorem clock_le_run (answer : Limiter → Duration → Verdict × Limiter) (race : Race ι)
    (schedule : List (Move ι)) : race.clock ≤ (race.run answer schedule).clock := by
  induction schedule generalizing race with
  | nil => exact Nat.le_refl _
  | cons move schedule ih => exact Nat.le_trans (clock_le_step answer race move) (ih _)

/-- **Step.** While the clock leaves room for a burst, nothing of the schedule is lost. -/
theorem Held.step_ask_eq (h : race.Held) (hquota : race.limiter.quota = q)
    (hroom : race.clock + q.refill * q.burst < UInt64.size) (move : Move ι) :
    race.step Limiter.ask move = race.step Limiter.check move := by
  cases move with
  | advance time => rfl
  | read caller => rfl
  | check caller =>
    cases hreading : race.reading caller with
    | none => simp only [Race.step, hreading]
    | some now =>
      have hnow := h caller now hreading
      have hask : race.limiter.ask now = race.limiter.check now :=
        Limiter.ask_eq_check (by rw [hquota]; lia)
      simp only [Race.step, hreading, arrive, hask]

/-- **Run.** While the clock leaves room for a burst, nothing of the schedule is lost. -/
theorem run_ask_eq (h : race.Held) (hsound : Sound q race) (schedule : List (Move ι))
    (hroom : (race.run Limiter.ask schedule).clock + q.refill * q.burst < UInt64.size) :
    race.run Limiter.ask schedule = race.run Limiter.check schedule := by
  induction schedule generalizing race with
  | nil => rfl
  | cons move schedule ih =>
    -- the clock does not go back, so there was room at every move before
    have hclock := clock_le_run Limiter.ask race (move :: schedule)
    have hstep := h.step_ask_eq hsound.quota (by lia) move
    rw [run, List.foldl_cons, hstep] at hroom ⊢
    exact ih (h.step Limiter.check move) (hsound.step move) hroom

/-- **Admission bound under racing callers.** For any number of callers and in whatever order their
checks reach the limiter, the admitted checks whose readings lie in a window number at most a burst,
and one for each refill interval in the window. This holds of the rule of the limiter and, while the clock
leaves room for a burst, of the limiter that keeps only what fits of its schedule. -/
theorem admitted_inWindow_le (q : Quota) (clock : Duration) (schedule : List (Move ι))
    (x y : Duration) :
    inWindow x y ((start q clock).run Limiter.check schedule).admitted ≤
        q.burst + (y - x) / q.refill ∧
      (((start q clock).run Limiter.ask schedule).clock + q.refill * q.burst < UInt64.size →
        inWindow x y ((start q clock).run Limiter.ask schedule).admitted ≤
          q.burst + (y - x) / q.refill) := by
  obtain ⟨hquota, haccounts⟩ := sound_run (sound_start q clock) schedule
  have hbound := haccounts.inWindow_le x y
  rw [hquota] at hbound
  refine ⟨hbound, fun hroom => ?_⟩
  rwa [run_ask_eq (held_start q clock) (sound_start q clock) schedule hroom]

/-- On a quota of three checks and one for each 100 ms, four callers take their readings at 0, 100,
100 and 100 ms. The earliest reading arrives second and is admitted; the last to arrive is not. -/
theorem admitted_inWindow_le_stale :
    let q : Quota := ⟨.ofMillis 100, 3, by decide, by decide⟩
    let schedule : List (Move (Fin 4)) := [.read 0, .advance (.ofMillis 100), .read 1, .read 2,
      .read 3, .check 1, .check 0, .check 2, .check 3]
    let race := (start q 0).run Limiter.ask schedule
    race.clock + q.refill * q.burst < UInt64.size ∧
      race.admitted = [.ofMillis 100, 0, .ofMillis 100] ∧
      inWindow 0 (Duration.ofMillis 100) race.admitted ≤
        q.burst + (Duration.ofMillis 100 - 0) / q.refill := by
  intro q schedule race
  have hroom : race.clock + q.refill * q.burst < UInt64.size := by decide
  exact ⟨hroom, by decide,
    (admitted_inWindow_le q 0 schedule 0 (Duration.ofMillis 100)).2 hroom⟩

end

end Race

end Deployer
