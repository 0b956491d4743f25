import Deployer.Client

/-!
# Sessions

A session uses one client, step after step, on one clock. A call is made under a token of its own or
under the session's shared token; the latter stays as a step leaves it, and lies aside while a call is
made under another. Each step yields a report: its result, the time it took, and its trace.
-/

namespace Deployer

/-- A call of a session: what is asked, the token under which it is made, and when that token is
cancelled, if not otherwise. -/
structure Call where
  operation : Operation
  request : Deployment
  shared : Bool
  cancelledBefore : Bool
  cancelAfter : Option Duration

inductive Step where
  /-- Performs an operation. -/
  | call (call : Call)
  /-- Lets time pass. -/
  | sleep (duration : Duration)
  /-- Cancels the shared token. -/
  | cancel

/-- What a step comes to. -/
inductive StepResult where
  | called (result : Except Error Deployment)
  | slept
  | cancelled

/-- The report on a step. -/
structure Report (κ : Type) where
  result : StepResult
  elapsed : Duration
  trace : List (Entry κ)

/-- The clock, the shared token and the state between two steps. -/
structure Session (σ : Type) where
  now : Duration
  shared : Token
  state : σ

namespace Session

variable {κ σ : Type}

/-- The session at instant 0. -/
def start (state : σ) : Session σ := ⟨0, .live, state⟩

/-- The token under which a call starts. -/
def tokenFor (s : Session σ) (call : Call) : Token :=
  let token := if call.shared then s.shared else .live
  if call.cancelledBefore then .cancelled
  else
    match call.cancelAfter with
    | some delay => token.dueBy (s.now + delay.awaited)
    | none => token

/-- Takes one step. -/
def step (client : Client κ σ) (s : Session σ) : Step → Report κ × Session σ
  | .call call =>
    let ran := client.perform call.operation call.request
      ⟨s.now, s.tokenFor call, s.shared, s.state⟩
    (⟨.called ran.value, ran.scene.now - s.now, ran.trace⟩,
      ⟨ran.scene.now, if call.shared then ran.scene.token else ran.scene.aside, ran.scene.state⟩)
  | .sleep duration =>
    let now := s.now + duration.awaited
    (⟨.slept, duration.awaited, []⟩, { s with now, shared := s.shared.settled now })
  | .cancel => (⟨.cancelled, 0, []⟩, { s with shared := .cancelled })

/-- Takes steps one after another. -/
def run (client : Client κ σ) (s : Session σ) : List Step → List (Report κ) × Session σ
  | [] => ([], s)
  | first :: rest =>
    let (report, s) := s.step client first
    let (reports, s) := s.run client rest
    (report :: reports, s)

theorem run_cons (client : Client κ σ) (s : Session σ) (first : Step) (rest : List Step) :
    s.run client (first :: rest) =
      ((s.step client first).1 :: ((s.step client first).2.run client rest).1,
        ((s.step client first).2.run client rest).2) := rfl

/-- Steps may be taken in two parts. -/
theorem run_append (client : Client κ σ) (s : Session σ) (steps more : List Step) :
    s.run client (steps ++ more) =
      ((s.run client steps).1 ++ ((s.run client steps).2.run client more).1,
        ((s.run client steps).2.run client more).2) := by
  induction steps generalizing s with
  | nil => rfl
  | cons first rest ih => rw [List.cons_append, run_cons, run_cons, ih, List.cons_append]

end Session

end Deployer
