import Deployer.Limiter

/-!
# How many calls a limiter admits

Each call that a limiter admits moves its schedule by one interval, and leaves it at most a burst
of intervals ahead of that call. So in every window of time the calls that were admitted number at
most a burst, and one more for each interval that fits into the window.

`Limiter.Accounts` is the invariant behind this: the schedule has room for the calls of every
window, counted from the window's start. It speaks of windows anywhere and asks nothing of the
order of the calls, so it also holds when the instants at which they are checked go back and
forth.
-/

namespace Deployer

/-- How many of the instants lie in the closed window from `a` to `b`. -/
def inWindow (a b : Duration) (instants : List Duration) : Nat :=
  instants.countP fun x => a ≤ x && x ≤ b

section

variable {a b x : Duration} {xs : List Duration}

/-- One more instant in a window counts. -/
theorem inWindow_concat_of_mem (ha : a ≤ x) (hb : x ≤ b) :
    inWindow a b (xs ++ [x]) = inWindow a b xs + 1 := by
  simp [inWindow, List.countP_append, ha, hb]

/-- An instant outside a window does not count. -/
theorem inWindow_concat_of_not_mem (h : ¬ (a ≤ x ∧ x ≤ b)) :
    inWindow a b (xs ++ [x]) = inWindow a b xs := by
  have hx : (decide (a ≤ x) && decide (x ≤ b)) = false := by
    simpa using h
  simp [inWindow, List.countP_append, hx]

end

namespace Limiter

/-- **The books of a limiter** on calls at some instants: if there are calls in a window, then the
schedule has moved by one interval for each of them since the window began, and not by more than a
burst beyond its end. -/
def Accounts (l : Limiter) (instants : List Duration) : Prop :=
  ∀ a b, inWindow a b instants = 0 ∨ ∃ arrival, l.arrival = some arrival ∧
    a + inWindow a b instants * l.quota.refill ≤ arrival ∧
    a + inWindow a b instants * l.quota.refill ≤ b + l.quota.refill * l.quota.burst

variable {l : Limiter} {now : Duration} {instants : List Duration}

/-- A limiter has nothing to account for before the first call. -/
theorem accounts_nil (l : Limiter) : l.Accounts [] := fun _ _ => .inl rfl

/-- **Step.** A call that is admitted can be entered in the books. -/
theorem Accounts.admit (h : l.Accounts instants)
    (hle : l.arrivalAt now ≤ now + l.quota.tolerance) :
    (l.check now).2.Accounts (instants ++ [now]) := by
  rw [check_of_le hle]
  intro a b
  have hburst := l.quota.tolerance_add_refill
  by_cases hmem : a ≤ now ∧ now ≤ b
  · -- the schedule had come to this call's place in the window already, or starts again from it
    have hplace : a + inWindow a b instants * l.quota.refill ≤ max (l.arrivalAt now) now := by
      rcases h a b with hzero | ⟨arrival, harrival, hreach, -⟩
      · rw [hzero]
        lia
      · rw [arrivalAt, harrival, Option.getD_some]
        lia
    rw [inWindow_concat_of_mem hmem.1 hmem.2]
    refine .inr ⟨_, rfl, ?_, ?_⟩ <;> rw [Nat.succ_mul] <;> dsimp only <;> lia
  · rw [inWindow_concat_of_not_mem hmem]
    rcases h a b with hzero | ⟨arrival, harrival, hreach, hlead⟩
    · exact .inl hzero
    · refine .inr ⟨_, rfl, ?_, hlead⟩
      rw [arrivalAt, harrival, Option.getD_some]
      dsimp only
      lia

/-- **Bound.** The calls of a window number at most a burst, and one for each interval in the
window. -/
theorem Accounts.inWindow_le (h : l.Accounts instants) (a b : Duration) :
    inWindow a b instants ≤ l.quota.burst + (b - a) / l.quota.refill := by
  rcases h a b with hzero | ⟨_, -, -, hlead⟩
  · rw [hzero]
    exact Nat.zero_le _
  · have hmul : inWindow a b instants * l.quota.refill ≤
        (b - a) + l.quota.burst * l.quota.refill := by
      rw [Nat.mul_comm l.quota.burst]
      lia
    calc inWindow a b instants
        ≤ ((b - a) + l.quota.burst * l.quota.refill) / l.quota.refill :=
          (Nat.le_div_iff_mul_le l.quota.refill_pos).mpr hmul
      _ = (b - a) / l.quota.refill + l.quota.burst :=
          Nat.add_mul_div_right _ _ l.quota.refill_pos
      _ = l.quota.burst + (b - a) / l.quota.refill := Nat.add_comm _ _

end Limiter

end Deployer
