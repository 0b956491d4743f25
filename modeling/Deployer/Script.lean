import Deployer.Client

/-!
# Scripted endpoints

A script is a sequence of turns, and a scripted endpoint plays the next turn at each invocation: it lets
time pass, perhaps cancels the activity, and answers. The far end of a client over two scripts is the
number of invocations that each has seen.
-/

namespace Deployer

/-- One answer of a scripted endpoint: the time it takes, whether the activity is cancelled just before
it, and what it is. -/
structure Turn where
  delay : Duration
  cancels : Bool
  answer : Except Error Reply

/-- The turn of each invocation, counted from 0. -/
abbrev Script := Nat → Turn

/-- The script that plays a list of turns and then repeats the last for ever. -/
def Script.ofList (first : Turn) (rest : List Turn) : Script := fun i =>
  ((first :: rest)[i]?).getD (rest.getLastD first)

/-- An invocation that reached a scripted endpoint. -/
structure Invocation where
  operation : Operation
  instant : Duration
  id : String
deriving DecidableEq

/-- How many invocations the endpoint of each operation has seen. -/
structure Positions where
  create : Nat
  get : Nat
deriving DecidableEq, Repr

namespace Positions

/-- Before any invocation. -/
def start : Positions := ⟨0, 0⟩

/-- The number of invocations of an operation. -/
def count (positions : Positions) : Operation → Nat
  | .create => positions.create
  | .get => positions.get

/-- The positions after one more invocation of an operation. -/
def advance (positions : Positions) : Operation → Positions
  | .create => { positions with create := positions.create + 1 }
  | .get => { positions with get := positions.get + 1 }

end Positions

open Activity

/-- Plays a turn. -/
def Turn.play {κ σ : Type} (turn : Turn) : Activity κ σ (Except Error Reply) := do
  sleep turn.delay
  if turn.cancels then cancel
  return turn.answer

/-- The scene in which a turn ends that begins in a scene. -/
def Turn.ending {σ : Type} (turn : Turn) (scene : Scene σ) : Scene σ :=
  if turn.cancels then { scene.later turn.delay with token := .cancelled }
  else scene.later turn.delay

theorem Turn.now_ending {σ : Type} (turn : Turn) (scene : Scene σ) :
    (turn.ending scene).now = scene.now + turn.delay.awaited := by
  rw [Turn.ending]
  split <;> rfl

theorem Turn.state_ending {σ : Type} (turn : Turn) (scene : Scene σ) :
    (turn.ending scene).state = scene.state := by
  rw [Turn.ending]
  split <;> rfl

/-- A turn takes its delay to the end, whatever happens to the token, and only then answers. -/
@[simp]
theorem Turn.play_apply {κ σ : Type} (turn : Turn) (scene : Scene σ) :
    (turn.play : Activity κ σ _) scene = ⟨turn.answer, turn.ending scene, []⟩ := by
  unfold Turn.play Turn.ending
  cases turn.cancels <;> simp

namespace Script

/-- The endpoint that plays a script for an operation. -/
def endpoint (script : Script) (operation : Operation) : Endpoint Invocation (World Positions) :=
  fun request => do
    reach ⟨operation, ← now, request.id⟩
    let world ← state
    setState { world with far := world.far.advance operation }
    (script (world.far.count operation)).play

/-- A scripted endpoint makes one call, when it begins, and then plays the turn that is due. -/
theorem endpoint_apply (script : Script) (operation : Operation) (request : Deployment)
    (scene : Scene (World Positions)) :
    script.endpoint operation request scene =
      ⟨(script (scene.state.far.count operation)).answer,
        (script (scene.state.far.count operation)).ending
          { scene with state := { scene.state with far := scene.state.far.advance operation } },
        [.reached ⟨operation, scene.now, request.id⟩]⟩ := by
  simp [endpoint]

/-- A retried run of a script on its own, with the number of the attempt that was answered. -/
def run (script : Script) (policy : Policy) (request : Deployment) :
    Activity Invocation (World Positions) (Except Error (Nat × Reply)) :=
  policy.run fun number => do
    return (← script.endpoint .create request).map (number, ·)

/-- The client over a script for each operation, each endpoint wrapped in the same layers. -/
def client (create get : Script) (layers : List Layer) (policy : Policy) :
    Client Invocation (World Positions) where
  create := Layer.wrap .create layers (create.endpoint .create)
  get := Layer.wrap .get layers (get.endpoint .get)
  policy

end Script

end Deployer
