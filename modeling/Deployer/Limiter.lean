import Deployer.Error

/-!
# The rate limiter

A quota allows one call per refill interval on average, and so many calls in a burst. The limiter keeps
a single instant, the time at which all calls admitted so far would have arrived had they been spaced by
the refill interval. A call is admitted when it is not more than `burst - 1` intervals ahead of that
schedule, and moves the schedule by one interval; a call that is rejected changes nothing and is told
how long it would have to wait. Calls are never queued.

`check` is this rule. A limiter keeps the schedule in a word of 64 bits, and calls are put to `ask`, which
follows the rule and keeps what fits: a schedule that comes to the end of the word begins again. The two
are the same while the clock leaves room for a burst (`ask_eq_check`).
-/

namespace Deployer

/-- One call per `refill` on average, and `burst` calls at once. -/
structure Quota where
  refill : Duration
  burst : Nat
  refill_pos : 0 < refill
  burst_pos : 0 < burst

namespace Quota

/-- The quota of options; the burst is checked first. -/
def ofOptions (refill : Duration) (burst : Nat) : Except ConfigFault Quota :=
  if hb : 0 < burst then
    if hr : 0 < refill then .ok ⟨refill, burst, hr, hb⟩ else .error .noRefill
  else .error .noBurst

/-- A quota of options has the refill interval and the burst that they ask for. -/
theorem eq_of_ofOptions_eq_ok {refill : Duration} {burst : Nat} {q : Quota}
    (h : ofOptions refill burst = .ok q) : q.refill = refill ∧ q.burst = burst := by
  rw [ofOptions] at h
  split at h
  next =>
    split at h
    next =>
      cases h
      exact ⟨rfl, rfl⟩
    next => cases h
  next => cases h

/-- How far the schedule may be ahead of the clock when a call is admitted. -/
def tolerance (q : Quota) : Duration := q.refill * (q.burst - 1)

/-- One more interval than the tolerance makes a whole burst. -/
theorem tolerance_add_refill (q : Quota) : q.tolerance + q.refill = q.refill * q.burst := by
  rw [tolerance, ← Nat.mul_succ, Nat.succ_eq_add_one, Nat.sub_add_cancel q.burst_pos]

end Quota

/-- What the limiter says to a call. -/
inductive Verdict where
  | admitted
  | rejected (retryAfter : Duration)
deriving DecidableEq, Repr

/-- A quota with the instant that the schedule has reached; there is none before the first call. -/
structure Limiter where
  quota : Quota
  arrival : Option Duration

namespace Limiter

/-- A limiter that has seen no call. -/
def fresh (quota : Quota) : Limiter := ⟨quota, none⟩

/-- The schedule as a call at an instant finds it. -/
def arrivalAt (l : Limiter) (now : Duration) : Duration := l.arrival.getD now

/-- The first instant at which a call would be admitted. -/
def earliest (l : Limiter) (now : Duration) : Duration := l.arrivalAt now - l.quota.tolerance

/-- The verdict on a call at an instant, and the limiter after it. -/
def check (l : Limiter) (now : Duration) : Verdict × Limiter :=
  if now < l.earliest now then (.rejected (l.earliest now - now), l)
  else (.admitted, { l with arrival := some (max (l.arrivalAt now) now + l.quota.refill) })

/-- A limiter with as much of its schedule as fits a word of 64 bits. -/
def stored (l : Limiter) : Limiter := { l with arrival := l.arrival.map (· % UInt64.size) }

/-- The verdict on a call at an instant, and the limiter that is kept. -/
def ask (l : Limiter) (now : Duration) : Verdict × Limiter :=
  match l.check now with
  | (.admitted, moved) => (.admitted, moved.stored)
  | (.rejected wait, _) => (.rejected wait, l)

/-- The verdicts on so many calls at one instant: how many were admitted, the wait that the last
rejected one was told, and the limiter after them. -/
def checkMany (l : Limiter) (now : Duration) : Nat → Nat × Option Duration × Limiter
  | 0 => (0, none, l)
  | n + 1 =>
    let (admitted, last, l) := l.checkMany now n
    match l.ask now with
    | (.admitted, l) => (admitted + 1, last, l)
    | (.rejected wait, l) => (admitted, some wait, l)

/-! ### When a call is admitted -/

variable {l : Limiter} {now : Duration}

/-- A call comes too early exactly when the schedule is further ahead than the tolerance. -/
theorem lt_earliest_iff : now < l.earliest now ↔ now + l.quota.tolerance < l.arrivalAt now := by
  rw [earliest, Nat.lt_sub_iff_add_lt]

/-- A call that comes too early is rejected, and changes nothing. -/
theorem check_of_lt (h : now + l.quota.tolerance < l.arrivalAt now) :
    l.check now = (.rejected (l.arrivalAt now - l.quota.tolerance - now), l) := by
  rw [check, if_pos (lt_earliest_iff.mpr h), earliest]

/-- Any other call is admitted, and moves the schedule by one interval. -/
theorem check_of_le (h : l.arrivalAt now ≤ now + l.quota.tolerance) :
    l.check now =
      (.admitted, { l with arrival := some (max (l.arrivalAt now) now + l.quota.refill) }) := by
  rw [check, if_neg fun hlt => Nat.not_lt.mpr h (lt_earliest_iff.mp hlt)]

/-- A call is either rejected, and changes nothing, or comes late enough and is admitted. -/
theorem check_cases (l : Limiter) (now : Duration) :
    (∃ wait, l.check now = (.rejected wait, l)) ∨
      l.arrivalAt now ≤ now + l.quota.tolerance ∧ (l.check now).1 = .admitted := by
  rcases Nat.lt_or_ge (now + l.quota.tolerance) (l.arrivalAt now) with hlt | hle
  · exact .inl ⟨_, check_of_lt hlt⟩
  · exact .inr ⟨hle, by rw [check_of_le hle]⟩

/-- The quota is never changed. -/
theorem quota_check (l : Limiter) (now : Duration) : (l.check now).2.quota = l.quota := by
  rw [check]
  split <;> rfl

/-! ### What is kept -/

/-- A call that comes too early is rejected, and the limiter is kept as it is. -/
theorem ask_of_lt (h : now + l.quota.tolerance < l.arrivalAt now) :
    l.ask now = (.rejected (l.arrivalAt now - l.quota.tolerance - now), l) := by
  rw [ask, check_of_lt h]

/-- Any other call is admitted, and what fits of the schedule is kept. -/
theorem ask_of_le (h : l.arrivalAt now ≤ now + l.quota.tolerance) :
    l.ask now = (.admitted, { l with
      arrival := some ((max (l.arrivalAt now) now + l.quota.refill) % UInt64.size) }) := by
  rw [ask, check_of_le h]
  rfl

/-- A call is either rejected, and changes nothing, or comes late enough and is admitted. -/
theorem ask_cases (l : Limiter) (now : Duration) :
    (∃ wait, l.ask now = (.rejected wait, l)) ∨
      l.arrivalAt now ≤ now + l.quota.tolerance ∧ (l.ask now).1 = .admitted := by
  rcases Nat.lt_or_ge (now + l.quota.tolerance) (l.arrivalAt now) with hlt | hle
  · exact .inl ⟨_, ask_of_lt hlt⟩
  · exact .inr ⟨hle, by rw [ask_of_le hle]⟩

/-- The quota is never changed. -/
theorem quota_ask (l : Limiter) (now : Duration) : (l.ask now).2.quota = l.quota := by
  rcases Nat.lt_or_ge (now + l.quota.tolerance) (l.arrivalAt now) with hlt | hle
  · rw [ask_of_lt hlt]
  · rw [ask_of_le hle]

/-- **Nothing is lost** while the clock leaves room for a burst: a call that is admitted finds the schedule
within the tolerance, so one interval more is within a burst of the clock. -/
theorem ask_eq_check (h : now + l.quota.refill * l.quota.burst < UInt64.size) :
    l.ask now = l.check now := by
  rcases Nat.lt_or_ge (now + l.quota.tolerance) (l.arrivalAt now) with hlt | hle
  · rw [ask_of_lt hlt, check_of_lt hlt]
  · have hburst := l.quota.tolerance_add_refill
    have hnow : now ≤ now + l.quota.tolerance := Nat.le_add_right _ _
    have hfits : max (l.arrivalAt now) now + l.quota.refill < UInt64.size := by
      refine Nat.lt_of_le_of_lt ?_ h
      rw [← hburst, ← Nat.add_assoc]
      exact Nat.add_le_add_right (Nat.max_le.mpr ⟨hle, hnow⟩) _
    rw [ask_of_le hle, check_of_le hle, Nat.mod_eq_of_lt hfits]

end Limiter

end Deployer
