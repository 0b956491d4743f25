import Deployer.Activity
import Deployer.Limiter
import Deployer.Reply

/-!
# Endpoints and their layers

An `Endpoint` is one remote operation: given a request, it comes to a decoded reply or an error. What
the reply means is decided later.

A layer wraps an endpoint. The limit layer asks the limiter, which all endpoints of a client share,
and lets a call pass or turns it away; the trace layer puts a call into a span and reports its end.
`wrap` puts a list of layers around an endpoint, the first of them outermost.
-/

namespace Deployer

/-- One remote operation, with calls `κ` reaching the far end and states `σ`. -/
abbrev Endpoint (κ σ : Type) := Deployment → Activity κ σ (Except Error Reply)

/-- What endpoints act on: the limiter that they share, if there is one, and the far end. -/
structure World (ρ : Type) where
  limiter : Option Limiter
  far : ρ

namespace Endpoint

open Activity

variable {κ σ ρ : Type}

/-- Asks the limiter for one call; without a limiter every call is admitted. -/
def admission : Activity κ (World ρ) Verdict := do
  let world ← state
  match world.limiter with
  | none => return .admitted
  | some limiter =>
    let (verdict, limiter) := limiter.ask (← now)
    setState { world with limiter := some limiter }
    return verdict

/-- An endpoint that is reached only when the limiter admits the call. -/
def limited (inner : Endpoint κ (World ρ)) : Endpoint κ (World ρ) := fun request => do
  match ← admission with
  | .admitted => inner request
  | .rejected wait =>
    log (.rejected (.rateLimited wait))
    return .error (.rateLimited wait)

/-- The report of how a call ended. -/
def ending (elapsed : Duration) : Except Error Reply → Event
  | .ok reply => .completed reply.status elapsed
  | .error .cancelled => .aborted elapsed
  | .error e => .failed e elapsed

/-- An endpoint whose calls are spans that end in a report. -/
def traced (operation : Operation) (inner : Endpoint κ σ) : Endpoint κ σ := fun request =>
  within ⟨operation, request.id⟩ do
    let started ← now
    let result ← inner request
    log (ending ((← now) - started) result)
    return result

/-! ### What the layers do to a call -/

section

variable {inner : Endpoint κ (World ρ)} {request : Deployment} {scene : Scene (World ρ)}
  {limiter : Limiter}

/-- A call that the limiter rejects does not reach the inner endpoint, and changes nothing. -/
theorem limited_of_rejected {wait : Duration} (hlimiter : scene.state.limiter = some limiter)
    (hask : limiter.ask scene.now = (.rejected wait, limiter)) :
    inner.limited request scene =
      ⟨.error (.rateLimited wait), scene, [.logged (.rejected (.rateLimited wait)) none]⟩ := by
  obtain ⟨now, token, aside, limiter', far⟩ := scene
  subst hlimiter
  simp [limited, admission, hask]

/-- A call that the limiter admits is a call of the inner endpoint, with the limiter moved on. -/
theorem limited_of_admitted {moved : Limiter} (hlimiter : scene.state.limiter = some limiter)
    (hask : limiter.ask scene.now = (.admitted, moved)) :
    inner.limited request scene =
      inner request { scene with state := { scene.state with limiter := some moved } } := by
  simp [limited, admission, hlimiter, hask]

/-- Without a limiter a limited call is a call of the inner endpoint. -/
theorem limited_of_none (hlimiter : scene.state.limiter = none) :
    inner.limited request scene = inner request scene := by
  simp [limited, admission, hlimiter]

/-- A limited call is either rejected, and changes nothing, or a call of the inner endpoint, in a world
whose limiter may have moved on. -/
theorem limited_cases (inner : Endpoint κ (World ρ)) (request : Deployment)
    (scene : Scene (World ρ)) :
    (∃ wait, inner.limited request scene =
      ⟨.error (.rateLimited wait), scene, [.logged (.rejected (.rateLimited wait)) none]⟩) ∨
    ∃ limiter, inner.limited request scene =
      inner request { scene with state := { scene.state with limiter } } := by
  obtain ⟨now, token, aside, limiter, far⟩ := scene
  cases limiter with
  | none => exact .inr ⟨none, limited_of_none rfl⟩
  | some limiter =>
    rcases limiter.ask_cases now with ⟨wait, hrejected⟩ | ⟨-, hadmitted⟩
    · exact .inl ⟨wait, limited_of_rejected rfl hrejected⟩
    · exact .inr ⟨_, limited_of_admitted rfl (Prod.ext hadmitted rfl)⟩

/-- A traced call is the call, with its log in a span that ends in a report. -/
theorem traced_apply (operation : Operation) (inner : Endpoint κ σ) (request : Deployment)
    (scene : Scene σ) :
    inner.traced operation request scene =
      ⟨(inner request scene).value, (inner request scene).scene,
        (inner request scene).trace.map (·.within ⟨operation, request.id⟩) ++
          [.logged (ending ((inner request scene).scene.now - scene.now)
            (inner request scene).value) (some ⟨operation, request.id⟩)]⟩ := by
  simp [traced, Entry.within]

end

end Endpoint

/-- A kind of wrapper around an endpoint. -/
inductive Layer where
  | limit
  | trace
deriving DecidableEq, Repr

namespace Layer

variable {κ ρ : Type}

/-- Puts one layer around the endpoint of an operation. -/
def apply (operation : Operation) (layer : Layer) (inner : Endpoint κ (World ρ)) :
    Endpoint κ (World ρ) :=
  match layer with
  | limit => inner.limited
  | trace => inner.traced operation

/-- Puts layers around the endpoint of an operation, the first outermost. -/
def wrap (operation : Operation) (layers : List Layer) (inner : Endpoint κ (World ρ)) :
    Endpoint κ (World ρ) :=
  layers.foldr (apply operation) inner

section

variable (operation : Operation) (layers : List Layer) (inner : Endpoint κ (World ρ))

theorem wrap_nil : wrap operation [] inner = inner := rfl

theorem wrap_limit :
    wrap operation (limit :: layers) inner = (wrap operation layers inner).limited := rfl

theorem wrap_trace :
    wrap operation (trace :: layers) inner = (wrap operation layers inner).traced operation := rfl

end

end Layer

end Deployer
