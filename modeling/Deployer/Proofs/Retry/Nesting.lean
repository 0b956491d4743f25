import Deployer.Proofs.Retry.Uncancelled

/-!
# Runs within runs

Whatever the operation does, and whenever the token is cancelled, a run ends conclusively: with a
success, or with a failure that must not be repeated (`conclusive_run`). A failure that may be repeated
leaves a run only within the error that says that the attempts are exhausted.

So a run that is retried by another policy is not retried: the first attempt of the outer run is its
last, and nothing tells the nested runs from the inner one alone (`run_run`), neither the result nor the
invocations nor the log.
-/

namespace Deployer

variable {κ σ α : Type}

namespace Policy

open Activity

variable {p : Policy} {number : Nat} {e : Error} {scene : Scene σ}
  {operation : Activity κ σ (Except Error α)} {next : Error → Activity κ σ (Except Error α)}

/-! ### How a run ends -/

/-- An attempt ends conclusively if what follows a failure does that may be repeated. -/
private theorem conclusive_attempt
    (hnext : ∀ e later, e.isRetryable = true → conclusive (next e later).value = true) :
    conclusive (attempt number operation next scene).value = true := by
  by_cases hcancelled : scene.token.isCancelled = true
  · rw [attempt_of_cancelled hcancelled]
    rfl
  · have hbegins : scene.token.isCancelled = false := Bool.eq_false_iff.mpr hcancelled
    by_cases hvalue : conclusive (operation scene).value = true
    · rw [attempt_of_conclusive hbegins hvalue]
      exact hvalue
    · obtain ⟨e, he, hagain⟩ := eq_error_of_not_conclusive (Bool.eq_false_iff.mpr hvalue)
      rw [attempt_of_retryable hbegins he hagain]
      exact hnext e _ hagain

/-- To give up is conclusive, since the error that says so must not be repeated. -/
private theorem conclusive_giveUp (started : Duration) (number : Nat) (e : Error)
    (scene : Scene σ) :
    conclusive (giveUp started number e scene : Ran κ σ (Except Error α)).value = true := rfl

/-- A wait is cut short, which is conclusive, or leads to what follows it. -/
private theorem conclusive_await {next : Activity κ σ (Except Error α)}
    (hnext : ∀ later, conclusive (next later).value = true) :
    conclusive (p.await number e next scene).value = true := by
  by_cases hwaits : scene.token.Outlasts (scene.now + p.interval.awaited)
  · rw [await_of_waited (pause_of_outlasts hwaits)]
    exact hnext _
  · obtain ⟨aside, hcut⟩ := pause_of_not_outlasts (κ := κ) hwaits
    rw [await_of_cut hcut]
    rfl

section

variable (p : Policy) (operation : Nat → Activity κ σ (Except Error α)) (scene : Scene σ)

/-- A run never ends in a way that may be repeated. -/
private theorem conclusive_attempts (started : Duration) (left number : Nat) :
    conclusive (p.attempts started operation left number scene).value = true := by
  induction left generalizing number scene with
  | zero => exact conclusive_attempt fun e later _ => conclusive_giveUp started number e later
  | succ left ih =>
    exact conclusive_attempt fun e later _ => conclusive_await fun later => ih later (number + 1)

/-- **Every run ends conclusively.** -/
theorem conclusive_run : conclusive (p.run operation scene).value = true := by
  rw [run_apply]
  exact conclusive_attempts p operation scene scene.now _ _

end

/-! ### Runs of runs -/

section

variable (p : Policy) (operation : Nat → Activity κ σ (Except Error α)) (scene : Scene σ)

/-- Every run begins with an attempt, whatever may follow it. -/
theorem run_eq_attempt :
    ∃ next, p.run operation scene = attempt 1 (operation 1) next scene := by
  obtain ⟨next, hnext⟩ := p.attempts_eq_attempt scene.now operation (p.maxAttempts - 1) 1
  exact ⟨next, by rw [run_apply, hnext]⟩

end

/-- **A run within a run is the inner run alone**: cancelled before they begin, both tell so in the same
words, and otherwise the first attempt of the outer run ends it. -/
theorem run_run (outer p : Policy) (operation : Nat → Nat → Activity κ σ (Except Error α)) :
    outer.run (fun number => p.run (operation number)) = p.run (operation 1) := by
  funext scene
  obtain ⟨next, houter⟩ := outer.run_eq_attempt (fun number => p.run (operation number)) scene
  by_cases hcancelled : scene.token.isCancelled = true
  · obtain ⟨next', hinner⟩ := p.run_eq_attempt (operation 1) scene
    rw [houter, hinner, attempt_of_cancelled hcancelled, attempt_of_cancelled hcancelled]
  · rw [houter]
    exact attempt_of_conclusive (Bool.eq_false_iff.mpr hcancelled)
      (conclusive_run p (operation 1) scene)

/-- **No run hands on a failure that may be repeated**, whatever its policy, its operation and the
instant at which it is cancelled. So a run of another policy around it makes the same invocations at the
same instants, comes to the same result and leaves the same scene and log as the inner run alone. -/
theorem run_nested (inner : Policy) (operation : Nat → Activity κ σ (Except Error α))
    (scene : Scene σ) :
    (∀ e, (inner.run operation scene).value = .error e → e.isRetryable = false) ∧
      ∀ outer : Policy,
        outer.run (fun _ => inner.run operation) scene = inner.run operation scene ∧
          (outer.run (fun _ => inner.run (noted operation)) scene).calls =
            inner.invocations operation scene := by
  refine ⟨fun e he => ?_, fun outer => ⟨?_, ?_⟩⟩
  · have hends := conclusive_run inner operation scene
    rw [he, conclusive, Bool.not_eq_true'] at hends
    exact hends
  · rw [run_run]
  · rw [run_run, invocations]

/-- An operation that times out at every attempt: three attempts exhaust the inner policy, and the outer
one, which would allow five, adds none. -/
theorem run_nested_exhausted :
    let inner : Policy := ⟨.ofSecs 2, 3⟩
    let outer : Policy := ⟨.ofSecs 1, 5⟩
    let operation : Nat → Activity Unit Unit (Except Error Unit) := fun _ => do
      Activity.sleep (.ofMillis 10)
      return .error (.transport .timeout)
    let scene : Scene Unit := ⟨0, .live, .live, ()⟩
    let e : Error := .exhausted 3 (.transport .timeout)
    (inner.run operation scene).value = .error e ∧ e.isRetryable = false ∧
      (outer.run (fun _ => inner.run operation) scene).value = .error e ∧
      (outer.run (fun _ => inner.run (noted operation)) scene).calls =
        [⟨1, 0⟩, ⟨2, Duration.ofMillis 2010⟩, ⟨3, Duration.ofMillis 4020⟩] := by
  intro inner outer operation scene e
  obtain ⟨hfinal, hnested⟩ := run_nested inner operation scene
  have he : (inner.run operation scene).value = .error e := rfl
  refine ⟨he, hfinal e he, ?_, ?_⟩
  · rw [(hnested outer).1]
    exact he
  · rw [(hnested outer).2]
    decide

end Policy

end Deployer
