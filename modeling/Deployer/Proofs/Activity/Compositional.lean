import Deployer.Session

/-!
# Properties that carry over from parts to wholes

A retried run and a call of a client are put together from the endpoint's own activity and from parts
that do very little: they look at the clock and the token, log, and wait. A property of activities that
holds of those parts, and of one activity after another if it holds of both, therefore holds of the
whole as soon as it holds of the endpoint. Such a property is `Compositional`;
`Compositional.run` and `Compositional.perform` carry it through a run of a policy and a call of a
client.

Nothing is said here of sleeps, of the state and of calls that reach the far end: only endpoints
deal with those.
-/

namespace Deployer.Activity

variable {κ σ α : Type}

/-- A property of activities is **compositional** if it holds of a value, a look at the clock or at the
token, a logged event and a pause, and of one activity after another if it holds of both. -/
structure Compositional (P : (α : Type) → Activity κ σ α → Prop) : Prop where
  pure {α : Type} (a : α) : P α (Pure.pure a)
  bind {α β : Type} {first : Activity κ σ α} {next : α → Activity κ σ β}
    (hfirst : P α first) (hnext : ∀ a, P β (next a)) : P β (first >>= next)
  now : P Duration now
  isCancelled : P Bool isCancelled
  log (event : Event) : P Unit (log event)
  pause (d : Duration) : P Bool (pause d)

namespace Compositional

variable {P : (α : Type) → Activity κ σ α → Prop} (h : Compositional P)

include h

/-- An attempt, from its operation and what follows a failure. -/
private theorem attempt (number : Nat) {operation : Activity κ σ (Except Error α)}
    {next : Error → Activity κ σ (Except Error α)} (hoperation : P _ operation)
    (hnext : ∀ e, P _ (next e)) : P _ (Policy.attempt number operation next) := by
  refine h.bind h.isCancelled fun cancelled => ?_
  cases cancelled with
  | true => exact h.bind (h.log _) fun _ => h.pure _
  | false =>
    refine h.bind hoperation fun result => ?_
    rcases result with e | a
    · cases hagain : e.isRetryable with
      | true => simpa [hagain] using hnext e
      | false => simpa [hagain] using h.pure (α := Except Error α) (.error e)
    · exact h.pure _

private theorem giveUp (started : Duration) (number : Nat) (e : Error) :
    P _ (Policy.giveUp (α := α) started number e) :=
  h.bind h.now fun _ => h.bind (h.log _) fun _ => h.pure _

/-- A wait between two attempts, from what follows it. -/
private theorem await (p : Policy) (number : Nat) (e : Error) {next : Activity κ σ (Except Error α)}
    (hnext : P _ next) : P _ (p.await number e next) := by
  refine h.bind (h.log _) fun _ => h.bind (h.pause _) fun cancelled => ?_
  cases cancelled with
  | true => exact h.bind (h.log _) fun _ => h.pure _
  | false => exact hnext

/-- What holds of each attempt holds of attempts that follow one another. -/
private theorem attempts (p : Policy) (started : Duration)
    {operation : Nat → Activity κ σ (Except Error α)} (hoperation : ∀ number, P _ (operation number))
    (left number : Nat) : P _ (p.attempts started operation left number) := by
  induction left generalizing number with
  | zero => exact h.attempt _ (hoperation _) fun e => h.giveUp _ _ e
  | succ left ih => exact h.attempt _ (hoperation _) fun e => h.await p _ e (ih _)

/-- What holds of each attempt holds of a retried run. -/
theorem run (p : Policy) {operation : Nat → Activity κ σ (Except Error α)}
    (hoperation : ∀ number, P _ (operation number)) : P _ (p.run operation) :=
  h.bind h.now fun _ => h.attempts p _ hoperation _ _

private theorem resolve (operation : Operation) (result : Except Error Reply) :
    P _ (Client.resolve operation result) := by
  cases result with
  | error e => exact h.pure _
  | ok reply => exact h.bind (h.log _) fun _ => h.pure _

/-- What holds of the endpoints of a client holds of its calls. -/
theorem perform {client : Client κ σ} (hcreate : ∀ request, P _ (client.create request))
    (hget : ∀ request, P _ (client.get request)) (operation : Operation) (request : Deployment) :
    P _ (client.perform operation request) := by
  cases operation with
  | create =>
    refine h.bind (h.run client.policy fun number => ?_) fun result => h.resolve _ result
    exact h.bind (h.log _) fun _ => hcreate request
  | get =>
    refine h.bind h.isCancelled fun cancelled => ?_
    cases cancelled with
    | true => exact h.pure _
    | false => exact h.bind (hget request) fun result => h.resolve _ result

end Compositional

end Deployer.Activity
