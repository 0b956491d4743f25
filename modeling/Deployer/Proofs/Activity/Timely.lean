import Deployer.Proofs.Activity.Compositional
import Deployer.Script

/-!
# The clock and the tokens

The clock never goes back, and no token is overdue: what was due before the instant on the clock has
been cancelled. Every activity keeps to that (`Activity.Timely`), whether it sleeps, pauses or reaches
the far end, and so does every session (`Session.OnTime.run`).

What is due at the very instant on the clock may or may not have been cancelled: that depends on
whether a pause was cut short just then.
-/

namespace Deployer

/-! ### Tokens -/

namespace Token

variable {token : Token} {a b now : Duration}

/-- A token is **on time** at an instant if what was due before has been cancelled. -/
def OnTime (now : Duration) (token : Token) : Prop := token.settled now = token

/-- A token that goes on to an instant by way of an earlier one is as if it had gone on at once. -/
theorem settled_settled (h : a ≤ b) : (token.settled a).settled b = token.settled b := by
  cases token with
  | live => rfl
  | due instant =>
    by_cases hdue : instant < a
    · have hlater : instant < b := Nat.lt_of_lt_of_le hdue h
      simp [settled, hdue, hlater]
    · simp [settled, hdue]
  | cancelled => rfl

/-- What is struck at an instant does not depend on what became of the token before. -/
theorem struck_settled (h : a ≤ b) : (token.settled a).struck b = token.struck b := by
  cases token with
  | live => rfl
  | due instant =>
    by_cases hdue : instant < a
    · have hlater : instant ≤ b := Nat.le_of_lt (Nat.lt_of_lt_of_le hdue h)
      simp [settled, struck, hdue, hlater]
    · simp [settled, hdue]
  | cancelled => rfl

/-- Only a token that is due at the very instant is struck and not settled by it. -/
theorem struck_eq_settled (h : token ≠ .due now) : token.struck now = token.settled now := by
  cases token with
  | live => rfl
  | due instant =>
    have hne : instant ≠ now := fun heq => h (congrArg due heq)
    simp only [struck, settled, Nat.le_iff_lt_or_eq, hne, or_false]
  | cancelled => rfl

private theorem onTime_live : live.OnTime now := rfl

private theorem onTime_cancelled : cancelled.OnTime now := rfl

/-- What is due has been cancelled once a token is settled. -/
theorem onTime_settled : (token.settled now).OnTime now := settled_settled (Nat.le_refl now)

private theorem onTime_due (h : now ≤ a) : (due a).OnTime now := if_neg (Nat.not_lt.mpr h)

/-- A token that is struck is settled as well. -/
private theorem onTime_struck : (token.struck now).OnTime now := by
  cases token with
  | live => rfl
  | due instant =>
    by_cases hdue : instant ≤ now
    · simp [struck, hdue, OnTime, settled]
    · rw [struck, if_neg hdue]
      exact onTime_due (Nat.le_of_not_le hdue)
  | cancelled => rfl

/-- A token may be made due at any instant to come. -/
theorem OnTime.dueBy (h : token.OnTime now) (hle : now ≤ a) : (token.dueBy a).OnTime now := by
  cases token with
  | live => exact onTime_due hle
  | due instant =>
    have hinstant : now ≤ instant := by
      refine Nat.le_of_not_lt fun hlt => ?_
      rw [OnTime, settled, if_pos hlt] at h
      cases h
    exact onTime_due (Nat.le_min.mpr ⟨hle, hinstant⟩)
  | cancelled => rfl

end Token

/-! ### Activities -/

variable {κ σ α β : Type}

/-- A scene is **on time** if neither of its tokens is overdue. -/
structure Scene.OnTime (scene : Scene σ) : Prop where
  token : scene.token.OnTime scene.now
  aside : scene.aside.OnTime scene.now

theorem Scene.onTime_later (scene : Scene σ) (d : Duration) : (scene.later d).OnTime :=
  ⟨Token.onTime_settled, Token.onTime_settled⟩

/-- Time does not go back. -/
theorem Scene.le_now_later (scene : Scene σ) (d : Duration) : scene.now ≤ (scene.later d).now :=
  Nat.le_add_right _ _

namespace Activity

/-- An activity is **timely** if it never turns the clock back, and leaves a scene that is on time if
it begins in one. -/
def Timely (activity : Activity κ σ α) : Prop :=
  ∀ scene, scene.OnTime →
    scene.now ≤ (activity scene).scene.now ∧ (activity scene).scene.OnTime

private theorem timely_pure (a : α) :
    (pure a : Activity κ σ α).Timely := fun _ h => ⟨Nat.le_refl _, h⟩

private theorem timely_now : (now : Activity κ σ _).Timely := fun _ h => ⟨Nat.le_refl _, h⟩

private theorem timely_state : (state : Activity κ σ _).Timely := fun _ h => ⟨Nat.le_refl _, h⟩

private theorem timely_setState (new : σ) : (setState new : Activity κ σ _).Timely := fun _ h =>
  ⟨Nat.le_refl _, h.token, h.aside⟩

private theorem timely_isCancelled :
    (isCancelled : Activity κ σ _).Timely := fun _ h => ⟨Nat.le_refl _, h⟩

private theorem timely_cancel : (cancel : Activity κ σ _).Timely := fun _ h =>
  ⟨Nat.le_refl _, Token.onTime_cancelled, h.aside⟩

private theorem timely_log (event : Event) : (log event : Activity κ σ _).Timely := fun _ h =>
  ⟨Nat.le_refl _, h⟩

private theorem timely_reach (call : κ) : (reach call : Activity κ σ _).Timely := fun _ h =>
  ⟨Nat.le_refl _, h⟩

private theorem timely_sleep (d : Duration) : (sleep d : Activity κ σ _).Timely := fun scene _ =>
  ⟨scene.le_now_later d, scene.onTime_later d⟩

/-- A pause ends on time, whether it is cut short or not. -/
private theorem timely_pause (d : Duration) : (pause d : Activity κ σ _).Timely := by
  intro scene h
  rw [pause]
  split
  next => exact ⟨scene.le_now_later d, scene.onTime_later d⟩
  next => exact ⟨Nat.le_refl _, h⟩
  next instant _ =>
    split
    next => exact ⟨Nat.le_max_left _ _, Token.onTime_cancelled, Token.onTime_struck⟩
    next => exact ⟨scene.le_now_later d, scene.onTime_later d⟩

/-- One timely activity after another is timely. -/
theorem Timely.bind {first : Activity κ σ α} {next : α → Activity κ σ β} (hfirst : first.Timely)
    (hnext : ∀ a, (next a).Timely) : (first >>= next).Timely := by
  intro scene h
  obtain ⟨hle, hscene⟩ := hfirst scene h
  obtain ⟨hle', hscene'⟩ := hnext (first scene).value (first scene).scene hscene
  exact ⟨Nat.le_trans hle hle', hscene'⟩

theorem Timely.within {activity : Activity κ σ α} (h : activity.Timely) (span : Span) :
    (activity.within span).Timely := h

/-- To be timely is compositional. -/
theorem timely_compositional : Compositional fun _ (activity : Activity κ σ _) => activity.Timely where
  pure := timely_pure
  bind := Timely.bind
  now := timely_now
  isCancelled := timely_isCancelled
  log := timely_log
  pause := timely_pause

end Activity

open Activity

/-! ### Endpoints -/

section

variable {ρ : Type} {inner : Endpoint κ (World ρ)} {request : Deployment}

private theorem timely_admission : (Endpoint.admission : Activity κ (World ρ) _).Timely := by
  refine timely_state.bind fun world => ?_
  rcases world with ⟨_ | limiter, far⟩
  · exact timely_pure _
  · exact timely_now.bind fun _ => (timely_setState _).bind fun _ => timely_pure _

private theorem timely_limited (h : (inner request).Timely) : (inner.limited request).Timely := by
  refine timely_admission.bind fun verdict => ?_
  cases verdict with
  | admitted => exact h
  | rejected wait => exact (timely_log _).bind fun _ => timely_pure _

private theorem timely_traced (operation : Operation) (h : (inner request).Timely) :
    (inner.traced operation request).Timely := by
  refine Timely.within ?_ _
  exact timely_now.bind fun _ => h.bind fun _ => timely_now.bind fun _ =>
    (timely_log _).bind fun _ => timely_pure _

/-- Layers leave a timely endpoint timely. -/
theorem timely_wrap (operation : Operation) (layers : List Layer) (h : (inner request).Timely) :
    (Layer.wrap operation layers inner request).Timely := by
  induction layers with
  | nil => exact h
  | cons layer layers ih =>
    cases layer with
    | limit => exact timely_limited ih
    | trace => exact timely_traced operation ih

end

theorem Turn.timely_play (turn : Turn) : (turn.play : Activity κ σ _).Timely := by
  refine (timely_sleep _).bind fun _ => ?_
  cases turn.cancels with
  | true => exact timely_cancel.bind fun _ => timely_pure _
  | false => exact timely_pure _

theorem Script.timely_endpoint (script : Script) (operation : Operation) (request : Deployment) :
    (script.endpoint operation request).Timely :=
  timely_now.bind fun _ => (timely_reach _).bind fun _ => timely_state.bind fun _ =>
    (timely_setState _).bind fun _ => Turn.timely_play _

/-! ### Sessions -/

namespace Session

/-- The shared token of a session is not overdue. -/
def OnTime (s : Session σ) : Prop := s.shared.OnTime s.now

variable {client : Client κ σ}

theorem onTime_start (state : σ) : (start state).OnTime := Token.onTime_live

/-- The scene in which a call of a session begins. -/
def sceneFor (s : Session σ) (call : Call) : Scene σ := ⟨s.now, s.tokenFor call, s.shared, s.state⟩

theorem OnTime.sceneFor {s : Session σ} (h : s.OnTime) (call : Call) : (s.sceneFor call).OnTime := by
  refine ⟨?_, h⟩
  have htoken : (if call.shared then s.shared else .live).OnTime s.now := by
    split
    · exact h
    · exact Token.onTime_live
  rw [Session.sceneFor, tokenFor]
  dsimp only
  split
  · exact Token.onTime_cancelled
  · split
    · exact htoken.dueBy (Nat.le_add_right _ _)
    · exact htoken

/-- **Step.** If the calls of the client are timely, a step leaves the session on time, and does not
turn the clock back. -/
theorem OnTime.step (hclient : ∀ operation request, (client.perform operation request).Timely)
    {s : Session σ} (h : s.OnTime) (step : Step) :
    s.now ≤ (s.step client step).2.now ∧ (s.step client step).2.OnTime := by
  cases step with
  | call call =>
    obtain ⟨hle, htoken, haside⟩ :=
      hclient call.operation call.request (s.sceneFor call) (h.sceneFor call)
    refine ⟨hle, ?_⟩
    rw [OnTime, Session.step]
    dsimp only
    split
    · exact htoken
    · exact haside
  | sleep d => exact ⟨Nat.le_add_right _ _, Token.onTime_settled⟩
  | cancel => exact ⟨Nat.le_refl _, Token.onTime_cancelled⟩

/-- If the calls of the client are timely, every run leaves the session on time. -/
theorem OnTime.run (hclient : ∀ operation request, (client.perform operation request).Timely)
    {s : Session σ} (h : s.OnTime) (steps : List Step) : (s.run client steps).2.OnTime := by
  induction steps generalizing s with
  | nil => exact h
  | cons first rest ih => exact ih (h.step hclient first).2

end Session

end Deployer
