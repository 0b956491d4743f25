import Deployer.Activity

/-!
# Retrying

A `Policy` bounds how often an operation is attempted and says how long to wait between two attempts;
the wait is always the same, and there is none after the last attempt. `Policy.run` makes attempts,
numbered from 1, until one succeeds, fails in a way that must not be repeated, or is the last.

A cancelled token is noticed before every attempt and during every wait, never inside an attempt: that
is the operation's own affair.
-/

namespace Deployer

/-- The wait between two attempts, and how many attempts there may be, the first included. -/
structure Policy where
  interval : Duration
  maxAttempts : Nat
deriving DecidableEq, Repr

namespace Policy

/-- A policy must allow an attempt. -/
def validate (p : Policy) : Except ConfigFault Unit :=
  if p.maxAttempts = 0 then .error .noAttempts else .ok ()

theorem validate_eq_ok_iff {p : Policy} : p.validate = .ok () ↔ 0 < p.maxAttempts := by
  rw [validate, Nat.pos_iff_ne_zero]
  split
  next hzero => exact ⟨(nomatch ·), fun hpos => absurd hzero hpos⟩
  next hpos => exact ⟨fun _ => hpos, fun _ => rfl⟩

/-- The policy with an interval and a bound, if it allows an attempt. -/
def ofOptions (interval : Duration) (maxAttempts : Nat) : Except ConfigFault Policy := do
  let policy : Policy := ⟨interval, maxAttempts⟩
  policy.validate
  return policy

open Activity

variable {κ σ α : Type}

/-- One attempt, unless the token is cancelled. A failure that may be repeated is left to `next`. -/
def attempt (number : Nat) (operation : Activity κ σ (Except Error α))
    (next : Error → Activity κ σ (Except Error α)) : Activity κ σ (Except Error α) := do
  if ← isCancelled then
    log (.cancelledBefore number)
    return .error .cancelled
  match ← operation with
  | .ok a => return .ok a
  | .error e => if e.isRetryable then next e else return .error e

/-- What follows the failure of the last attempt of a run. -/
def giveUp (started : Duration) (number : Nat) (e : Error) : Activity κ σ (Except Error α) := do
  log (.gaveUp number ((← now) - started) e)
  return .error (.exhausted number e)

/-- What follows the failure of an attempt that is not the last: a wait, and then `next`. -/
def await (p : Policy) (number : Nat) (e : Error) (next : Activity κ σ (Except Error α)) :
    Activity κ σ (Except Error α) := do
  log (.retrying number p.maxAttempts e p.interval)
  if ← pause p.interval then
    log .cancelledWaiting
    return .error .cancelled
  next

/-- The attempts from a number on, of which so many may still follow it. -/
def attempts (p : Policy) (started : Duration) (operation : Nat → Activity κ σ (Except Error α)) :
    (left number : Nat) → Activity κ σ (Except Error α)
  | 0, number => attempt number (operation number) (giveUp started number)
  | left + 1, number =>
    attempt number (operation number) fun e =>
      p.await number e (p.attempts started operation left (number + 1))

/-- Attempts an operation, which is told the number of the attempt, until it is done or the attempts
run out. A policy that allows no attempt, which `validate` refuses, makes one. -/
def run (p : Policy) (operation : Nat → Activity κ σ (Except Error α)) :
    Activity κ σ (Except Error α) := do
  p.attempts (← now) operation (p.maxAttempts - 1) 1

/-! ### The ways in which an attempt ends -/

section

variable {number : Nat} {operation : Activity κ σ (Except Error α)}
  {next : Error → Activity κ σ (Except Error α)} {scene : Scene σ}

/-- There is no attempt under a cancelled token. -/
theorem attempt_of_cancelled (h : scene.token.isCancelled = true) :
    attempt number operation next scene =
      ⟨.error .cancelled, scene, [.logged (.cancelledBefore number) none]⟩ := by
  simp [attempt, h]

/-- A success ends the run. -/
theorem attempt_of_ok {a : α} (h : scene.token.isCancelled = false)
    (ha : (operation scene).value = .ok a) :
    attempt number operation next scene =
      ⟨.ok a, (operation scene).scene, (operation scene).trace⟩ := by
  simp [attempt, h, ha]

/-- A failure that must not be repeated ends the run. -/
theorem attempt_of_final {e : Error} (h : scene.token.isCancelled = false)
    (he : (operation scene).value = .error e) (final : e.isRetryable = false) :
    attempt number operation next scene =
      ⟨.error e, (operation scene).scene, (operation scene).trace⟩ := by
  simp [attempt, h, he, final]

/-- After any other failure the run goes on where the operation ended. -/
theorem attempt_of_retryable {e : Error} (h : scene.token.isCancelled = false)
    (he : (operation scene).value = .error e) (again : e.isRetryable = true) :
    attempt number operation next scene =
      ⟨(next e (operation scene).scene).value, (next e (operation scene).scene).scene,
        (operation scene).trace ++ (next e (operation scene).scene).trace⟩ := by
  simp [attempt, h, he, again]

/-- Whatever becomes of an attempt that is made, the operation's own trace comes first. -/
theorem attempt_trace (h : scene.token.isCancelled = false) :
    ∃ more, (attempt number operation next scene).trace = (operation scene).trace ++ more := by
  cases hvalue : (operation scene).value with
  | ok a => exact ⟨[], by rw [attempt_of_ok h hvalue, List.append_nil]⟩
  | error e =>
    cases hagain : e.isRetryable with
    | true => exact ⟨_, by rw [attempt_of_retryable h hvalue hagain]⟩
    | false => exact ⟨[], by rw [attempt_of_final h hvalue hagain, List.append_nil]⟩

/-- When the last attempt has failed, the run ends where it is. -/
theorem giveUp_apply (started : Duration) (number : Nat) (e : Error) (scene : Scene σ) :
    (giveUp started number e : Activity κ σ (Except Error α)) scene =
      ⟨.error (.exhausted number e), scene,
        [.logged (.gaveUp number (scene.now - started) e) none]⟩ := rfl

end

/-! ### The ways in which a wait ends -/

section

variable {p : Policy} {number : Nat} {e : Error} {next : Activity κ σ (Except Error α)}
  {scene later : Scene σ}

/-- After a wait that is not cut short the run goes on. -/
theorem await_of_waited (h : (pause p.interval : Activity κ σ Bool) scene = ⟨false, later, []⟩) :
    p.await number e next scene =
      ⟨(next later).value, (next later).scene,
        .logged (.retrying number p.maxAttempts e p.interval) none :: (next later).trace⟩ := by
  simp [await, h]

/-- A wait that is cut short ends the run. -/
theorem await_of_cut (h : (pause p.interval : Activity κ σ Bool) scene = ⟨true, later, []⟩) :
    p.await number e next scene =
      ⟨.error .cancelled, later,
        [.logged (.retrying number p.maxAttempts e p.interval) none,
          .logged .cancelledWaiting none]⟩ := by
  simp [await, h]

end

/-- A run is a first attempt, and so many more as the policy allows. -/
theorem run_apply (p : Policy) (operation : Nat → Activity κ σ (Except Error α))
    (scene : Scene σ) :
    p.run operation scene = p.attempts scene.now operation (p.maxAttempts - 1) 1 scene := rfl

end Policy

end Deployer
