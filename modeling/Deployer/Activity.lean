import Deployer.Event

/-!
# Activities in virtual time

An `Activity` is something that happens over time: it starts in a scene, ends in another with a value,
and leaves a trace. A `Scene` is a clock, the token by which the activity may be cancelled, a token
that lies aside for later activities, and a state of its own. A trace lists, in order, what was logged
and the calls that reached the far end.

Time passes only in two ways. `sleep` goes on to its end whatever happens to the token; `pause` ends
early when the token is cancelled. Either is a wait in whole milliseconds (`Duration.awaited`). A token
that is due at an instant is cancelled once the clock has passed that instant. What ends a pause early
also cancels every other token that is due by then, at that very instant too; whereas the end of a sleep
comes before what is due at the same instant.
-/

namespace Deployer

/-- Whether an activity is cancelled, or when it will be. -/
inductive Token where
  | live
  | due (instant : Duration)
  | cancelled
deriving DecidableEq, Repr

namespace Token

/-- Whether a token is cancelled. -/
def isCancelled : Token → Bool
  | cancelled => true
  | _ => false

theorem isCancelled_of_live {token : Token} (h : token = live) : token.isCancelled = false := by
  rw [h]
  rfl

/-- What a token is when the clock has gone on to an instant. -/
def settled (now : Duration) : Token → Token
  | due instant => if instant < now then cancelled else due instant
  | t => t

/-- What a token is when everything that is due by an instant has been cancelled. -/
def struck (now : Duration) : Token → Token
  | due instant => if instant ≤ now then cancelled else due instant
  | t => t

/-- A token that is cancelled at an instant at the latest. -/
def dueBy (instant : Duration) : Token → Token
  | live => due instant
  | due other => due (min instant other)
  | cancelled => cancelled

end Token

/-- A clock, the token of what happens, a token that lies aside, and a state. -/
structure Scene (σ : Type) where
  now : Duration
  token : Token
  aside : Token
  state : σ

/-- A scene after a time in which nothing happens but what is due. -/
def Scene.later {σ : Type} (scene : Scene σ) (d : Duration) : Scene σ :=
  let now := scene.now + d.awaited
  { scene with now, token := scene.token.settled now, aside := scene.aside.settled now }

/-- A token that nobody cancels stays live. -/
theorem Scene.token_later_of_live {σ : Type} {scene : Scene σ} (h : scene.token = .live)
    (d : Duration) : (scene.later d).token = .live := by
  rw [Scene.later, h]
  rfl

/-- What a trace tells: an event that was logged, with the span it belongs to, or a call that reached
the far end. -/
inductive Entry (κ : Type) where
  | logged (event : Event) (span : Option Span)
  | reached (call : κ)
deriving DecidableEq

namespace Entry

variable {κ : Type}

/-- The event of an entry, with its span. -/
def event? : Entry κ → Option (Event × Option Span)
  | logged event span => some (event, span)
  | reached _ => none

/-- The call of an entry. -/
def call? : Entry κ → Option κ
  | logged _ _ => none
  | reached call => some call

/-- Puts a logged event into a span, unless it has one. -/
def within (span : Span) : Entry κ → Entry κ
  | logged event none => logged event (some span)
  | entry => entry

end Entry

/-- How an activity ended: its value, the scene, and the trace. -/
structure Ran (κ σ α : Type) where
  value : α
  scene : Scene σ
  trace : List (Entry κ)

/-- Something that happens over time. -/
def Activity (κ σ α : Type) : Type := Scene σ → Ran κ σ α

namespace Activity

variable {κ σ α β : Type}

instance : Monad (Activity κ σ) where
  pure a := fun scene => ⟨a, scene, []⟩
  bind first next := fun scene =>
    let r := first scene
    let s := next r.value r.scene
    ⟨s.value, s.scene, r.trace ++ s.trace⟩

/-- The instant on the clock. -/
def now : Activity κ σ Duration := fun scene => ⟨scene.now, scene, []⟩

/-- The state. -/
def state : Activity κ σ σ := fun scene => ⟨scene.state, scene, []⟩

/-- Replaces the state. -/
def setState (state : σ) : Activity κ σ Unit := fun scene => ⟨(), { scene with state }, []⟩

/-- Whether the activity is cancelled. -/
def isCancelled : Activity κ σ Bool := fun scene => ⟨scene.token.isCancelled, scene, []⟩

/-- Cancels the activity. -/
def cancel : Activity κ σ Unit := fun scene => ⟨(), { scene with token := .cancelled }, []⟩

/-- Logs an event. -/
def log (event : Event) : Activity κ σ Unit := fun scene => ⟨(), scene, [.logged event none]⟩

/-- Records a call that reached the far end. -/
def reach (call : κ) : Activity κ σ Unit := fun scene => ⟨(), scene, [.reached call]⟩

/-- Lets time pass, to the end. -/
def sleep (d : Duration) : Activity κ σ Unit := fun scene => ⟨(), scene.later d, []⟩

/-- Lets time pass, until the end or until the token is cancelled; tells whether it was. -/
def pause (d : Duration) : Activity κ σ Bool := fun scene =>
  match scene.token with
  | .live => ⟨false, scene.later d, []⟩
  | .cancelled => ⟨true, scene, []⟩
  | .due instant =>
    if instant < scene.now + d.awaited then
      let now := max scene.now instant
      ⟨true, { scene with now, token := .cancelled, aside := scene.aside.struck now }, []⟩
    else ⟨false, scene.later d, []⟩

/-- Puts what an activity logs into a span. -/
def within (span : Span) (activity : Activity κ σ α) : Activity κ σ α := fun scene =>
  let r := activity scene
  { r with trace := r.trace.map (·.within span) }

/-! ### What each activity does to a scene -/

@[simp]
theorem pure_apply (a : α) (scene : Scene σ) :
    (pure a : Activity κ σ α) scene = ⟨a, scene, []⟩ := rfl

/-- One activity after another: the second starts where the first ended, and their traces are joined. -/
@[simp]
theorem bind_apply (first : Activity κ σ α) (next : α → Activity κ σ β) (scene : Scene σ) :
    (first >>= next) scene =
      ⟨(next (first scene).value (first scene).scene).value,
        (next (first scene).value (first scene).scene).scene,
        (first scene).trace ++ (next (first scene).value (first scene).scene).trace⟩ := rfl

@[simp]
theorem now_apply (scene : Scene σ) : (now : Activity κ σ _) scene = ⟨scene.now, scene, []⟩ := rfl

@[simp]
theorem state_apply (scene : Scene σ) :
    (state : Activity κ σ _) scene = ⟨scene.state, scene, []⟩ := rfl

@[simp]
theorem setState_apply (new : σ) (scene : Scene σ) :
    (setState new : Activity κ σ _) scene = ⟨(), { scene with state := new }, []⟩ := rfl

@[simp]
theorem isCancelled_apply (scene : Scene σ) :
    (isCancelled : Activity κ σ _) scene = ⟨scene.token.isCancelled, scene, []⟩ := rfl

@[simp]
theorem cancel_apply (scene : Scene σ) :
    (cancel : Activity κ σ _) scene = ⟨(), { scene with token := .cancelled }, []⟩ := rfl

@[simp]
theorem log_apply (event : Event) (scene : Scene σ) :
    (log event : Activity κ σ _) scene = ⟨(), scene, [.logged event none]⟩ := rfl

@[simp]
theorem reach_apply (call : κ) (scene : Scene σ) :
    (reach call : Activity κ σ _) scene = ⟨(), scene, [.reached call]⟩ := rfl

@[simp]
theorem sleep_apply (d : Duration) (scene : Scene σ) :
    (sleep d : Activity κ σ _) scene = ⟨(), scene.later d, []⟩ := rfl

@[simp]
theorem within_apply (span : Span) (activity : Activity κ σ α) (scene : Scene σ) :
    activity.within span scene =
      ⟨(activity scene).value, (activity scene).scene, (activity scene).trace.map (·.within span)⟩ :=
  rfl

/-- A pause under a token that nobody cancels is a sleep. -/
theorem pause_of_live (d : Duration) (scene : Scene σ) (h : scene.token = .live) :
    (pause d : Activity κ σ _) scene = ⟨false, scene.later d, []⟩ := by
  simp [pause, h]

end Activity

end Deployer
