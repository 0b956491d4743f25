import Deployer.Proofs.Activity.Invariant
import Mathlib.Data.Nat.Find

/-!
# The course of a retried run

A run of a policy is told by the attempts that it would make if each were followed by another.
`onset i` is the scene in which the attempt of index `i` would begin and `nth i` is how it would
go; the attempt is told the number `i + 1`. A run makes these attempts in order and stops at the
first that does not *pass*: it is cancelled before it, it does not fail in a way that may be
repeated, or the wait after it is cut short. If none stops it, the cap does.

* `run_skip`: attempts that pass contribute their traces and the reports between them, and the
  rest of the run is the run that begins after them.
* `exists_stop`: every run stops at some attempt.
* `stop_of_cancelled`, `stop_of_conclusive`, `stop_of_cap`, `stop_of_cut`: the ways in which it
  stops; `Stops.cases` says which of them it can be.

Nothing is assumed of the operation here, neither of its clock nor of its token.
-/

namespace Deployer

variable {κ σ α : Type}

/-! ### Waits that are not cut short -/

namespace Token

/-- A token **outlasts** an instant if it is not cancelled up to there. -/
def Outlasts (instant : Duration) : Token → Prop
  | live => True
  | due limit => instant ≤ limit
  | cancelled => False

/-- The instant at which a wait that began at an instant is cut short, if the token does so. -/
def cut (now : Duration) : Token → Duration
  | due limit => max now limit
  | _ => now

variable {token : Token} {now later : Duration}

/-- A token that outlasts an instant outlasts those before it. -/
theorem Outlasts.mono (h : token.Outlasts later) (hle : now ≤ later) : token.Outlasts now := by
  cases token with
  | live => trivial
  | due limit => exact Nat.le_trans hle h
  | cancelled => exact h

theorem Outlasts.isCancelled_eq_false (h : token.Outlasts now) : token.isCancelled = false := by
  cases token with
  | live => rfl
  | due limit => rfl
  | cancelled => exact h.elim

/-- Only a due token outlasts one instant and not another. -/
theorem Outlasts.eq_due (h : token.Outlasts now) (hnot : ¬ token.Outlasts later) :
    ∃ limit, token = due limit ∧ now ≤ limit ∧ limit < later := by
  cases token with
  | live => exact absurd trivial hnot
  | due limit => exact ⟨limit, rfl, h, Nat.not_le.mp hnot⟩
  | cancelled => exact h.elim

/-- What becomes of a token as time passes does not change what it outlasts later. -/
theorem outlasts_settled (hle : now ≤ later) :
    (token.settled now).Outlasts later ↔ token.Outlasts later := by
  cases token with
  | live => exact Iff.rfl
  | due limit =>
    rw [settled]
    split
    next hlt => exact ⟨False.elim, fun h => absurd (Nat.le_trans hle h) (Nat.not_le.mpr hlt)⟩
    next => exact Iff.rfl
  | cancelled => exact Iff.rfl

/-- Nothing becomes of a token that outlasts the clock. -/
theorem Outlasts.settled_eq (h : token.Outlasts now) : token.settled now = token := by
  cases token with
  | live => rfl
  | due limit => exact if_neg (Nat.not_lt.mpr h)
  | cancelled => rfl

end Token

namespace Activity

variable {scene : Scene σ} {d : Duration}

/-- A pause whose end the token outlasts is a sleep. -/
theorem pause_of_outlasts (h : scene.token.Outlasts (scene.now + d.awaited)) :
    (pause d : Activity κ σ _) scene = ⟨false, scene.later d, []⟩ := by
  rw [pause]
  split
  next => rfl
  next htoken =>
    rw [htoken] at h
    exact h.elim
  next limit htoken =>
    rw [htoken] at h
    rw [if_neg (Nat.not_lt.mpr h)]

/-- Any other pause is cut short as soon as the token is cancelled. -/
theorem pause_of_not_outlasts (h : ¬ scene.token.Outlasts (scene.now + d.awaited)) :
    ∃ aside, (pause d : Activity κ σ _) scene =
      ⟨true, ⟨scene.token.cut scene.now, .cancelled, aside, scene.state⟩, []⟩ := by
  obtain ⟨now, token, aside, state⟩ := scene
  cases token with
  | live => exact absurd trivial h
  | due limit => exact ⟨_, by rw [pause]; exact if_pos (Nat.not_le.mp h)⟩
  | cancelled => exact ⟨aside, rfl⟩

end Activity

/-- An ending with a trace that came before it. -/
def Ran.after (past : List (Entry κ)) (r : Ran κ σ α) : Ran κ σ α :=
  { r with trace := past ++ r.trace }

theorem Ran.calls_after (past : List (Entry κ)) (r : Ran κ σ α) :
    (r.after past).calls = past.filterMap Entry.call? ++ r.calls := List.filterMap_append

namespace Policy

open Activity

/-- An outcome that ends a run: a success, or a failure that must not be repeated. -/
def conclusive : Except Error α → Bool
  | .ok _ => true
  | .error e => !e.isRetryable

/-- An outcome that is not conclusive is an error that may be repeated. -/
theorem eq_error_of_not_conclusive {outcome : Except Error α} (h : conclusive outcome = false) :
    ∃ e, outcome = .error e ∧ e.isRetryable = true := by
  cases outcome with
  | ok a => cases h
  | error e => exact ⟨e, rfl, by simpa [conclusive] using h⟩

/-- An outcome that ends a run is that of the attempt. -/
theorem attempt_of_conclusive {number : Nat} {operation : Activity κ σ (Except Error α)}
    {next : Error → Activity κ σ (Except Error α)} {scene : Scene σ}
    (hbegins : scene.token.isCancelled = false)
    (h : conclusive (operation scene).value = true) :
    attempt number operation next scene = operation scene := by
  cases hvalue : (operation scene).value with
  | ok a => rw [attempt_of_ok hbegins hvalue, ← hvalue]
  | error e =>
    rw [hvalue, conclusive, Bool.not_eq_true'] at h
    rw [attempt_of_final hbegins hvalue h, ← hvalue]

/-- However many may still follow it, the first of some attempts is made as any attempt is. -/
theorem attempts_eq_attempt (p : Policy) (started : Duration)
    (operation : Nat → Activity κ σ (Except Error α)) (left number : Nat) :
    ∃ next, p.attempts started operation left number =
      attempt number (operation number) next := by
  cases left with
  | zero => exact ⟨_, rfl⟩
  | succ left => exact ⟨_, rfl⟩

/-- The number of attempts that a policy allows; it is never 0. -/
def cap (p : Policy) : Nat := max 1 p.maxAttempts

/-- There is at least one attempt. -/
theorem cap_pos (p : Policy) : 0 < p.cap := Nat.lt_of_lt_of_le Nat.one_pos (Nat.le_max_left _ _)

section

variable (p : Policy) (operation : Nat → Activity κ σ (Except Error α)) (scene : Scene σ)

/-- The scene in which the attempt of an index begins, if each one before it is followed by
another. -/
def onset : Nat → Scene σ
  | 0 => scene
  | i + 1 => (operation (i + 1) (onset i)).scene.later p.interval

/-- How the attempt of an index goes. -/
def nth (i : Nat) : Ran κ σ (Except Error α) := operation (i + 1) (p.onset operation scene i)

theorem onset_succ (i : Nat) :
    p.onset operation scene (i + 1) = (p.nth operation scene i).scene.later p.interval := rfl

/-- The attempt of an index is made, and another may follow it. -/
structure Passes (i : Nat) : Prop where
  begins : (p.onset operation scene i).token.isCancelled = false
  fails : conclusive (p.nth operation scene i).value = false
  waits : (p.nth operation scene i).scene.token.Outlasts
    ((p.nth operation scene i).scene.now + p.interval.awaited)

/-- What the trace tells of an attempt that is followed by another. -/
def episode (i : Nat) : List (Entry κ) :=
  (p.nth operation scene i).trace ++
    match (p.nth operation scene i).value with
    | .ok _ => []
    | .error e => [.logged (.retrying (i + 1) p.maxAttempts e p.interval) none]

end

variable {p : Policy} {operation : Nat → Activity κ σ (Except Error α)} {scene : Scene σ}
  {started : Duration} {left n : Nat}

/-! ### Attempts that pass -/

/-- After an attempt that passes, the run goes on with the next. -/
private theorem attempts_of_passes (h : p.Passes operation scene n) :
    p.attempts started operation (left + 1) (n + 1) (p.onset operation scene n) =
      ((p.attempts started operation left (n + 2)) (p.onset operation scene (n + 1))).after
        (p.episode operation scene n) := by
  obtain ⟨hbegins, hfails, hwaits⟩ := h
  obtain ⟨e, he, hagain⟩ := eq_error_of_not_conclusive hfails
  rw [nth] at he hwaits
  rw [attempts, attempt_of_retryable hbegins he hagain, await_of_waited (pause_of_outlasts hwaits)]
  simp [Ran.after, episode, nth, he, onset]

/-- As many attempts as pass are made one after another. -/
private theorem attempts_skip (h : ∀ i < n, p.Passes operation scene i) :
    p.attempts started operation (left + n) 1 scene =
      ((p.attempts started operation left (n + 1)) (p.onset operation scene n)).after
        ((List.range n).flatMap (p.episode operation scene)) := by
  induction n generalizing left with
  | zero => rfl
  | succ n ih =>
    -- the run after `n` attempts has one more left than the run after `n + 1`
    have hpast := @ih (left + 1) fun i hi => h i (Nat.lt_succ_of_lt hi)
    rw [Nat.add_right_comm] at hpast
    rw [← Nat.add_assoc, hpast, attempts_of_passes (h n n.lt_succ_self), List.range_succ,
      List.flatMap_append]
    simp [Ran.after]

/-- The part of a run that begins with the attempt of an index. -/
def remainder (p : Policy) (operation : Nat → Activity κ σ (Except Error α)) (scene : Scene σ)
    (n : Nat) : Ran κ σ (Except Error α) :=
  p.attempts scene.now operation (p.cap - 1 - n) (n + 1) (p.onset operation scene n)

/-- A run makes the attempts that pass, as far as the cap allows, and goes on after them. -/
theorem run_skip (hn : n < p.cap) (h : ∀ i < n, p.Passes operation scene i) :
    p.run operation scene = (p.remainder operation scene n).after
      ((List.range n).flatMap (p.episode operation scene)) := by
  have hleft : p.maxAttempts - 1 = p.cap - 1 - n + n := by
    rw [cap] at hn ⊢
    lia
  rw [remainder, ← attempts_skip h, ← hleft]
  rfl

/-! ### Where a run stops -/

/-- A run **stops** at the attempt of an index: all before it pass, and it does not, or it is the
last. -/
structure Stops (p : Policy) (operation : Nat → Activity κ σ (Except Error α)) (scene : Scene σ)
    (n : Nat) : Prop where
  lt_cap : n < p.cap
  passes : ∀ i < n, p.Passes operation scene i
  last : n + 1 = p.cap ∨ ¬ p.Passes operation scene n

/-- Every run stops. -/
theorem exists_stop (p : Policy) (operation : Nat → Activity κ σ (Except Error α))
    (scene : Scene σ) : ∃ n, p.Stops operation scene n := by
  classical
  -- the last attempt that the cap allows is a candidate, so there is a first one
  have hlast : ∃ n, n + 1 = p.cap ∨ ¬ p.Passes operation scene n :=
    ⟨p.cap - 1, .inl (Nat.sub_add_cancel p.cap_pos)⟩
  refine ⟨Nat.find hlast, ?_, fun i hi => ?_, Nat.find_spec hlast⟩
  · have hle : Nat.find hlast ≤ p.cap - 1 :=
      Nat.find_min' hlast (.inl (Nat.sub_add_cancel p.cap_pos))
    have hpos := p.cap_pos
    lia
  · by_contra hpass
    exact Nat.find_min hlast hi (.inr hpass)

/-- A run stops no later than at an attempt that does not pass. -/
theorem Stops.le_of_not_passes {i : Nat} (h : p.Stops operation scene n)
    (hi : ¬ p.Passes operation scene i) : n ≤ i :=
  Nat.le_of_not_lt fun hlt => hi (h.passes i hlt)

/-- A run that is not capped before goes on to an attempt before which all pass. -/
theorem Stops.ge_of_passes {i : Nat} (h : p.Stops operation scene n) (hi : i < p.cap)
    (hpasses : ∀ j < i, p.Passes operation scene j) : i ≤ n := by
  refine Nat.le_of_not_lt fun hlt => ?_
  rcases h.last with hcap | hpass
  · lia
  · exact hpass (hpasses n hlt)

/-! ### The calls of a run -/

/-- An attempt that is followed by another makes the calls of the attempt. -/
private theorem calls_episode (i : Nat) :
    (p.episode operation scene i).filterMap Entry.call? = (p.nth operation scene i).calls := by
  rw [episode, List.filterMap_append]
  cases (p.nth operation scene i).value <;> simp [Ran.calls]

/-- The calls of a run are those of its attempts, one after another. -/
theorem calls_after_episodes (n : Nat) (r : Ran κ σ (Except Error α)) :
    (r.after ((List.range n).flatMap (p.episode operation scene))).calls =
      (List.range n).flatMap (fun i => (p.nth operation scene i).calls) ++ r.calls := by
  rw [Ran.calls_after, List.filterMap_flatMap]
  simp only [calls_episode]

/-! ### How a run stops -/

/-- Whatever may follow it, the rest of a run begins with an attempt. -/
theorem remainder_eq_attempt (p : Policy) (operation : Nat → Activity κ σ (Except Error α))
    (scene : Scene σ) (n : Nat) : ∃ next, p.remainder operation scene n =
      attempt (n + 1) (operation (n + 1)) next (p.onset operation scene n) := by
  obtain ⟨next, hnext⟩ := p.attempts_eq_attempt scene.now operation (p.cap - 1 - n) (n + 1)
  exact ⟨next, congrFun hnext _⟩

/-- A run that is cancelled before an attempt stops there. -/
theorem stop_of_cancelled (h : (p.onset operation scene n).token.isCancelled = true) :
    p.remainder operation scene n =
      ⟨.error .cancelled, p.onset operation scene n,
        [.logged (.cancelledBefore (n + 1)) none]⟩ := by
  obtain ⟨next, hnext⟩ := p.remainder_eq_attempt operation scene n
  rw [hnext, attempt_of_cancelled h]

/-- A run stops as an attempt does whose outcome ends it. -/
theorem stop_of_conclusive (hbegins : (p.onset operation scene n).token.isCancelled = false)
    (h : conclusive (p.nth operation scene n).value = true) :
    p.remainder operation scene n = p.nth operation scene n := by
  obtain ⟨next, hnext⟩ := p.remainder_eq_attempt operation scene n
  rw [hnext]
  exact attempt_of_conclusive hbegins h

/-- A run whose last attempt fails, though it might be repeated, has exhausted its attempts. -/
theorem stop_of_cap {e : Error} (hbegins : (p.onset operation scene n).token.isCancelled = false)
    (he : (p.nth operation scene n).value = .error e) (hagain : e.isRetryable = true)
    (hcap : n + 1 = p.cap) :
    p.remainder operation scene n =
      ⟨.error (.exhausted (n + 1) e), (p.nth operation scene n).scene,
        (p.nth operation scene n).trace ++ [.logged (.gaveUp (n + 1)
          ((p.nth operation scene n).scene.now - scene.now) e) none]⟩ := by
  have hleft : p.cap - 1 - n = 0 := by lia
  rw [remainder, hleft, attempts, attempt_of_retryable hbegins he hagain, giveUp_apply]
  rfl

/-- A run whose wait is cut short is cancelled at that instant. -/
theorem stop_of_cut {e : Error} (hbegins : (p.onset operation scene n).token.isCancelled = false)
    (he : (p.nth operation scene n).value = .error e) (hagain : e.isRetryable = true)
    (hlt : n + 1 < p.cap)
    (hcut : ¬ (p.nth operation scene n).scene.token.Outlasts
      ((p.nth operation scene n).scene.now + p.interval.awaited)) :
    ∃ aside, p.remainder operation scene n =
      ⟨.error .cancelled,
        ⟨(p.nth operation scene n).scene.token.cut (p.nth operation scene n).scene.now, .cancelled,
          aside, (p.nth operation scene n).scene.state⟩,
        p.episode operation scene n ++ [.logged .cancelledWaiting none]⟩ := by
  obtain ⟨left, hleft⟩ : ∃ left, p.cap - 1 - n = left + 1 := ⟨p.cap - 2 - n, by lia⟩
  obtain ⟨aside, hpause⟩ := pause_of_not_outlasts (κ := κ) hcut
  refine ⟨aside, ?_⟩
  rw [nth] at he hpause
  rw [remainder, hleft, attempts, attempt_of_retryable hbegins he hagain, await_of_cut hpause]
  simp [episode, he, nth]

/-- **How a run stops** at an attempt that is made: with the attempt's own outcome if that is
conclusive, otherwise with the attempts exhausted if it was the last, and cancelled in the wait
after it if not. -/
theorem Stops.cases (h : p.Stops operation scene n)
    (hbegins : (p.onset operation scene n).token.isCancelled = false) :
    (p.remainder operation scene n).calls = (p.nth operation scene n).calls ∧
      (conclusive (p.nth operation scene n).value = true ∧
        (p.remainder operation scene n).value = (p.nth operation scene n).value ∧
        (p.remainder operation scene n).scene.now = (p.nth operation scene n).scene.now ∨
      ∃ e, (p.nth operation scene n).value = .error e ∧ e.isRetryable = true ∧
        (n + 1 = p.cap ∧ (p.remainder operation scene n).value = .error (.exhausted (n + 1) e) ∧
          (p.remainder operation scene n).scene.now = (p.nth operation scene n).scene.now ∨
        n + 1 < p.cap ∧ (p.remainder operation scene n).value = .error .cancelled ∧
          (p.remainder operation scene n).scene.now =
            (p.nth operation scene n).scene.token.cut (p.nth operation scene n).scene.now ∧
          ¬ (p.nth operation scene n).scene.token.Outlasts
            ((p.nth operation scene n).scene.now + p.interval.awaited))) := by
  cases hvalue : conclusive (p.nth operation scene n).value with
  | true =>
    rw [stop_of_conclusive hbegins hvalue]
    exact ⟨rfl, .inl ⟨rfl, rfl, rfl⟩⟩
  | false =>
    obtain ⟨e, he, hagain⟩ := eq_error_of_not_conclusive hvalue
    rcases Nat.lt_or_ge (n + 1) p.cap with hlt | hge
    · -- another attempt was allowed, so what kept this one from passing can only be the wait
      have hcut : ¬ (p.nth operation scene n).scene.token.Outlasts
          ((p.nth operation scene n).scene.now + p.interval.awaited) := fun hwaits =>
        h.last.elim (fun hcap => absurd hcap (Nat.ne_of_lt hlt)) fun hpass =>
          hpass ⟨hbegins, hvalue, hwaits⟩
      obtain ⟨aside, hstop⟩ := stop_of_cut hbegins he hagain hlt hcut
      rw [hstop]
      refine ⟨?_, .inr ⟨e, he, hagain, .inr ⟨hlt, rfl, rfl, hcut⟩⟩⟩
      rw [Ran.calls, List.filterMap_append, calls_episode]
      simp
    · have hcap : n + 1 = p.cap := Nat.le_antisymm h.lt_cap hge
      rw [stop_of_cap hbegins he hagain hcap]
      refine ⟨?_, .inr ⟨e, he, hagain, .inl ⟨hcap, rfl, rfl⟩⟩⟩
      simp [Ran.calls]

/-- A run makes the calls of the attempts that pass, and those of what remains. -/
theorem Stops.calls_run (h : p.Stops operation scene n) :
    (p.run operation scene).calls =
      (List.range n).flatMap (fun i => (p.nth operation scene i).calls) ++
        (p.remainder operation scene n).calls := by
  rw [run_skip h.lt_cap h.passes, calls_after_episodes]

end Policy

end Deployer
