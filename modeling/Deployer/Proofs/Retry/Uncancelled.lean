import Deployer.Proofs.Retry.Course
import Mathlib.Algebra.BigOperators.Group.Finset.Basic

/-!
# Runs that nobody cancels

While the token stays live, an attempt passes exactly if it fails in a way that may be repeated.
So a run ends with the first conclusive outcome, unchanged, if the cap lets it come so far, and
otherwise with the last failure, wrapped (`run_uncancelled`). The attempts are numbered from 1,
and between two of them there is one wait and nothing else.

A wait lasts as long as the interval says, rounded up to whole milliseconds, but never longer than
`Duration.longestWait` (`Duration.awaited`). So the next attempt comes late by part of a millisecond, or
early if the interval is longer than a wait can be (`attempts_not_spaced_by_interval`). The timer that is
waited for is the one that the attempts wait for, so a wait begins where they end, at a whole millisecond.
-/

namespace Deployer

variable {κ σ α : Type}

/-- An invocation of a retried operation: the number that it was told, and when. -/
structure Attempt where
  number : Nat
  instant : Duration
deriving DecidableEq, Repr

namespace Policy

/-- An operation each of whose invocations is a call, and nothing else is. -/
def noted (operation : Nat → Activity κ σ α) (number : Nat) : Activity Attempt σ α := fun scene =>
  ⟨(operation number scene).value, (operation number scene).scene, [.reached ⟨number, scene.now⟩]⟩

section

variable (p : Policy) (operation : Nat → Activity κ σ (Except Error α)) (scene : Scene σ)

/-- The invocations of an operation in a run, in order. -/
def invocations : List Attempt := (p.run (noted operation) scene).calls

/-- The time that the attempt of an index takes. -/
def taken (i : Nat) : Duration :=
  (p.nth operation scene i).scene.now - (p.onset operation scene i).now

/-- Nobody cancels a run: its token is live, and every attempt that the cap allows leaves it live.
And no attempt turns back the clock. -/
structure Undisturbed : Prop where
  live : scene.token = .live
  stays : ∀ i < p.cap, (p.nth operation scene i).scene.token = .live
  clock : ∀ i < p.cap, (p.onset operation scene i).now ≤ (p.nth operation scene i).scene.now

/-- When the attempt of an index begins, if each one before it is followed by another. -/
def begins (i : Nat) : Duration :=
  scene.now + ∑ j ∈ Finset.range i, p.taken operation scene j + i * p.interval.awaited

/-- A run makes so many attempts, numbered from 1, each at its time, and is over with the last. -/
structure Takes (n : Nat) : Prop where
  attempts : p.invocations operation scene =
    (List.range n).map fun i => ⟨i + 1, p.begins operation scene i⟩
  ends : (p.run operation scene).scene.now =
    scene.now + ∑ j ∈ Finset.range n, p.taken operation scene j + (n - 1) * p.interval.awaited

end

variable {p : Policy} {operation : Nat → Activity κ σ (Except Error α)} {scene : Scene σ} {n : Nat}

/-! ### Noting the invocations changes nothing else -/

/-- Noting the invocations changes nothing about when they come. -/
private theorem onset_noted (i : Nat) :
    p.onset (noted operation) scene i = p.onset operation scene i := by
  induction i with
  | zero => rfl
  | succ i ih =>
    rw [onset, onset, ih]
    rfl

/-- A noted attempt ends as the attempt does, with its own call as the trace. -/
private theorem nth_noted (i : Nat) :
    p.nth (noted operation) scene i =
      ⟨(p.nth operation scene i).value, (p.nth operation scene i).scene,
        [.reached ⟨i + 1, (p.onset operation scene i).now⟩]⟩ := by
  rw [nth, onset_noted]
  rfl

/-- Noting the invocations disturbs nobody. -/
theorem Undisturbed.noted (h : p.Undisturbed operation scene) :
    p.Undisturbed (Policy.noted operation) scene where
  live := h.live
  stays i hi := by
    rw [nth_noted]
    exact h.stays i hi
  clock i hi := by
    rw [nth_noted, onset_noted]
    exact h.clock i hi

/-! ### The timetable -/

namespace Undisturbed

/-- The token is live when an attempt begins. -/
private theorem onset_live (h : p.Undisturbed operation scene) {i : Nat} (hi : i < p.cap) :
    (p.onset operation scene i).token = .live := by
  cases i with
  | zero => exact h.live
  | succ i =>
    have hlive := h.stays i (Nat.lt_of_succ_lt hi)
    rw [nth] at hlive
    exact Scene.token_later_of_live hlive _

/-- An attempt ends when its time is over. -/
private theorem now_nth (h : p.Undisturbed operation scene) {i : Nat} (hi : i < p.cap) :
    (p.nth operation scene i).scene.now =
      (p.onset operation scene i).now + p.taken operation scene i :=
  (Nat.add_sub_of_le (h.clock i hi)).symm

/-- An attempt begins when all before it and all waits between them are over. -/
private theorem now_onset (h : p.Undisturbed operation scene) {i : Nat} (hi : i ≤ p.cap) :
    (p.onset operation scene i).now = p.begins operation scene i := by
  induction i with
  | zero => simp [onset, begins]
  | succ i ih =>
    have hend := h.now_nth hi
    rw [ih (Nat.le_of_succ_le hi), nth] at hend
    rw [onset, Scene.later, begins, Finset.sum_range_succ, Nat.succ_mul]
    dsimp only
    rw [hend, begins]
    lia

/-- The end of the attempt before which `n` waits lie. -/
private theorem now_nth_eq (h : p.Undisturbed operation scene) (hn : n < p.cap) :
    (p.nth operation scene n).scene.now = scene.now +
      ∑ j ∈ Finset.range (n + 1), p.taken operation scene j + n * p.interval.awaited := by
  rw [h.now_nth hn, h.now_onset hn.le, begins, Finset.sum_range_succ]
  lia

/-- As long as nobody cancels it, an attempt passes if it fails in a way that may be repeated. -/
private theorem passes (h : p.Undisturbed operation scene) {i : Nat} (hi : i < p.cap)
    (hfails : conclusive (p.nth operation scene i).value = false) : p.Passes operation scene i where
  begins := Token.isCancelled_of_live (h.onset_live hi)
  fails := hfails
  waits := by rw [h.stays i hi]; trivial

/-! ### The two ways in which a run ends -/

/-- A run ends as the first attempt does whose outcome is conclusive. -/
theorem run_of_conclusive (h : p.Undisturbed operation scene) (hn : n < p.cap)
    (hfirst : ∀ i < n, conclusive (p.nth operation scene i).value = false)
    (hlast : conclusive (p.nth operation scene n).value = true) :
    p.run operation scene = (p.nth operation scene n).after
      ((List.range n).flatMap (p.episode operation scene)) := by
  have hbegins : (p.onset operation scene n).token.isCancelled = false :=
    Token.isCancelled_of_live (h.onset_live hn)
  rw [run_skip hn fun i hi => h.passes (hi.trans hn) (hfirst i hi),
    stop_of_conclusive hbegins hlast]

/-- A run none of whose outcomes is conclusive ends with the failure of the last attempt. -/
theorem run_of_inconclusive (h : p.Undisturbed operation scene)
    (hall : ∀ i < p.cap, conclusive (p.nth operation scene i).value = false) :
    ∃ e, (p.nth operation scene (p.cap - 1)).value = .error e ∧
      p.run operation scene = Ran.after
        ((List.range (p.cap - 1)).flatMap (p.episode operation scene))
        ⟨.error (.exhausted p.cap e), (p.nth operation scene (p.cap - 1)).scene,
          (p.nth operation scene (p.cap - 1)).trace ++ [.logged (.gaveUp p.cap
            ((p.nth operation scene (p.cap - 1)).scene.now - scene.now) e) none]⟩ := by
  have hpred : p.cap - 1 + 1 = p.cap := Nat.sub_add_cancel p.cap_pos
  have hlt : p.cap - 1 < p.cap := Nat.sub_lt p.cap_pos Nat.one_pos
  have hbegins : (p.onset operation scene (p.cap - 1)).token.isCancelled = false :=
    Token.isCancelled_of_live (h.onset_live hlt)
  obtain ⟨e, he, hagain⟩ := eq_error_of_not_conclusive (hall _ hlt)
  refine ⟨e, he, ?_⟩
  rw [run_skip hlt fun i hi => h.passes (hi.trans hlt) (hall i (hi.trans hlt)),
    stop_of_cap hbegins he hagain hpred, hpred]

/-! ### The invocations -/

/-- The invocations of the first attempts, at their times. -/
private theorem flatMap_calls_noted (h : p.Undisturbed operation scene) (hn : n ≤ p.cap) :
    (List.range n).flatMap (fun i => (p.nth (Policy.noted operation) scene i).calls) =
      (List.range n).map fun i => ⟨i + 1, p.begins operation scene i⟩ := by
  rw [List.map_eq_flatMap]
  refine List.flatMap_congr fun i hi => ?_
  have hlt : i < n := List.mem_range.mp hi
  rw [nth_noted, ← h.now_onset (hlt.le.trans hn)]
  rfl

/-- A run that ends with the first conclusive outcome. -/
private theorem takes_of_conclusive (h : p.Undisturbed operation scene) (hn : n < p.cap)
    (hfirst : ∀ i < n, conclusive (p.nth operation scene i).value = false)
    (hlast : conclusive (p.nth operation scene n).value = true) :
    p.Takes operation scene (n + 1) where
  attempts := by
    have hrun := h.noted.run_of_conclusive hn (fun i hi => by rw [nth_noted]; exact hfirst i hi)
      (by rw [nth_noted]; exact hlast)
    rw [invocations, hrun, calls_after_episodes, ← h.flatMap_calls_noted hn, List.range_succ,
      List.flatMap_append, List.flatMap_singleton]
  ends := by
    rw [h.run_of_conclusive hn hfirst hlast]
    exact h.now_nth_eq hn

/-- A run that ends because the attempts are exhausted. -/
private theorem takes_of_inconclusive (h : p.Undisturbed operation scene)
    (hall : ∀ i < p.cap, conclusive (p.nth operation scene i).value = false) :
    p.Takes operation scene p.cap where
  attempts := by
    obtain ⟨e, -, hrun⟩ := h.noted.run_of_inconclusive fun i hi => by
      rw [nth_noted]
      exact hall i hi
    have hpred : p.cap = p.cap - 1 + 1 := (Nat.sub_add_cancel p.cap_pos).symm
    rw [invocations, hrun, calls_after_episodes, ← h.flatMap_calls_noted le_rfl]
    conv_rhs => rw [hpred, List.range_succ, List.flatMap_append, List.flatMap_singleton]
    simp [Ran.calls]
  ends := by
    obtain ⟨e, -, hrun⟩ := h.run_of_inconclusive hall
    have hpred : p.cap - 1 + 1 = p.cap := Nat.sub_add_cancel p.cap_pos
    rw [hrun]
    have hend := h.now_nth_eq (Nat.sub_lt p.cap_pos Nat.one_pos)
    rwa [hpred] at hend

/-- In either case a run makes no more attempts than the cap allows. -/
private theorem exists_takes (h : p.Undisturbed operation scene) :
    ∃ n ≤ p.cap, p.Takes operation scene n := by
  by_cases hlast : ∃ k, k < p.cap ∧ conclusive (p.nth operation scene k).value = true
  · obtain ⟨hk, hvalue⟩ := Nat.find_spec hlast
    refine ⟨Nat.find hlast + 1, hk, h.takes_of_conclusive hk (fun i hi => ?_) hvalue⟩
    exact Bool.eq_false_iff.mpr fun htrue => Nat.find_min hlast hi ⟨hi.trans hk, htrue⟩
  · push Not at hlast
    exact ⟨p.cap, le_rfl, h.takes_of_inconclusive fun i hi => Bool.eq_false_iff.mpr (hlast i hi)⟩

end Undisturbed

/-- Attempts are numbered from 1 to their number. -/
theorem Takes.number_mem (h : p.Takes operation scene n) {attempt : Attempt}
    (hattempt : attempt ∈ p.invocations operation scene) :
    1 ≤ attempt.number ∧ attempt.number ≤ n := by
  rw [h.attempts] at hattempt
  obtain ⟨i, hi, rfl⟩ := List.mem_map.mp hattempt
  exact ⟨i.succ_pos, List.mem_range.mp hi⟩

/-- **What an uncancelled run comes to.** If the first conclusive outcome lies within the cap, the
run makes the attempts up to it and returns it unchanged; otherwise it makes as many attempts as
the cap allows and returns the last failure, wrapped with their number. The attempts are numbered
from 1, each begins when all before it and as many waits are over, and the run is over with the
last one. No attempt is told a number beyond the cap, which is a 32-bit number if the policy's
bound is one. -/
theorem run_uncancelled (h : p.Undisturbed operation scene) :
    (∀ k < p.cap, conclusive (p.nth operation scene k).value = true →
      (∀ i < k, conclusive (p.nth operation scene i).value = false) →
      (p.run operation scene).value = (p.nth operation scene k).value ∧
        p.Takes operation scene (k + 1)) ∧
    ((∀ i < p.cap, conclusive (p.nth operation scene i).value = false) →
      ∃ e, (p.nth operation scene (p.cap - 1)).value = .error e ∧
        (p.run operation scene).value = .error (.exhausted p.cap e) ∧
        p.Takes operation scene p.cap) ∧
    (∀ attempt ∈ p.invocations operation scene, 1 ≤ attempt.number ∧ attempt.number ≤ p.cap) ∧
    (p.maxAttempts < UInt32.size → p.cap < UInt32.size) := by
  refine ⟨fun k hk hlast hfirst => ?_, fun hall => ?_, ?_, fun hsize => ?_⟩
  · rw [h.run_of_conclusive hk hfirst hlast]
    exact ⟨rfl, h.takes_of_conclusive hk hfirst hlast⟩
  · obtain ⟨e, he, hrun⟩ := h.run_of_inconclusive hall
    rw [hrun]
    exact ⟨e, he, rfl, h.takes_of_inconclusive hall⟩
  · obtain ⟨n, hn, htakes⟩ := h.exists_takes
    exact fun attempt hattempt =>
      ⟨(htakes.number_mem hattempt).1, (htakes.number_mem hattempt).2.trans hn⟩
  · rw [cap]
    exact max_lt (by decide) hsize

/-- Two attempts of 10 and 20 ms that fail, and a third that succeeds. The interval is a millisecond and a
half, and each wait takes two. -/
theorem run_uncancelled_third :
    let p : Policy := ⟨1500000, 5⟩
    let operation : Nat → Activity Unit Unit (Except Error Nat) := fun number => do
      Activity.sleep (.ofMillis (10 * number))
      return if number < 3 then .error (.transport .timeout) else .ok number
    let scene : Scene Unit := ⟨0, .live, .live, ()⟩
    p.Undisturbed operation scene ∧ (p.run operation scene).value = .ok 3 ∧
      p.invocations operation scene =
        [⟨1, 0⟩, ⟨2, Duration.ofMillis 12⟩, ⟨3, Duration.ofMillis 34⟩] ∧
      (p.run operation scene).scene.now = Duration.ofMillis 64 := by
  intro p operation scene
  have h : p.Undisturbed operation scene := ⟨rfl, by decide, by decide⟩
  obtain ⟨hvalue, htakes⟩ := (run_uncancelled h).1 2 (by decide) (by rfl) (by decide)
  refine ⟨h, hvalue, ?_, ?_⟩
  · rw [htakes.attempts]
    decide
  · rw [htakes.ends]
    decide

/-- **Attempts need not be spaced by the interval.** If it is a millisecond longer than a wait can be, the
second attempt comes a millisecond before the interval is over; if it is a millisecond and a half, the
second attempt comes half a millisecond after it. -/
theorem attempts_not_spaced_by_interval :
    let operation : Nat → Activity Unit Unit (Except Error Unit) := fun number =>
      return if number < 2 then .error (.transport .timeout) else .ok ()
    let scene : Scene Unit := ⟨0, .live, .live, ()⟩
    let missed (p : Policy) (second : Duration) : Prop :=
      p.Undisturbed operation scene ∧ conclusive (p.nth operation scene 0).value = false ∧
        conclusive (p.nth operation scene 1).value = true ∧
        p.invocations operation scene = [⟨1, 0⟩, ⟨2, second⟩] ∧
        p.invocations operation scene ≠ (List.range 2).map (fun i => ⟨i + 1,
          scene.now + ∑ j ∈ Finset.range i, p.taken operation scene j + i * p.interval⟩) ∧
        (p.run operation scene).scene.now ≠
          scene.now + ∑ j ∈ Finset.range 2, p.taken operation scene j + (2 - 1) * p.interval
    missed ⟨Duration.longestWait + Duration.ofMillis 1, 2⟩ Duration.longestWait ∧
      missed ⟨1500000, 2⟩ (.ofMillis 2) := by
  intro operation scene missed
  exact ⟨⟨⟨rfl, by decide, by decide⟩, rfl, rfl, by decide, by decide, by decide⟩,
    ⟨rfl, by decide, by decide⟩, rfl, rfl, by decide, by decide, by decide⟩

end Policy

end Deployer
