import Deployer.Endpoint
import Deployer.Retry

/-!
# The client

A client has an endpoint for each operation and a policy for retrying. Creating a deployment is
retried: it may be repeated safely, since it names the deployment. Reading the latest state is a single
attempt. Either way the reply that came in the end is classified once, and what it means is logged.
-/

namespace Deployer

/-- An endpoint for each operation, and a policy for creating. -/
structure Client (κ σ : Type) where
  create : Endpoint κ σ
  get : Endpoint κ σ
  policy : Policy

/-- The report of what a reply turned out to be. -/
def Outcome.event (operation : Operation) : Outcome → Event
  | deployment d => .returned operation d.id d.status
  | refused e => .refused operation e
  | unclassified d => .unclassified operation d

namespace Client

open Activity

variable {κ σ : Type}

/-- Classifies the reply that a call brought, if it brought one. -/
def resolve (operation : Operation) : Except Error Reply → Activity κ σ (Except Error Deployment)
  | .error e => return .error e
  | .ok reply => do
    let outcome := classify reply
    log (outcome.event operation)
    return outcome.toResult

/-- Creates a deployment, or updates it. -/
def createDeployment (client : Client κ σ) (request : Deployment) :
    Activity κ σ (Except Error Deployment) := do
  let result ← client.policy.run fun number => do
    log (.attempt number request.id)
    client.create request
  resolve .create result

/-- Reads the latest state of a deployment. -/
def latestDeployment (client : Client κ σ) (request : Deployment) :
    Activity κ σ (Except Error Deployment) := do
  if ← isCancelled then return .error .cancelled
  resolve .get (← client.get request)

/-- Performs either operation. -/
def perform (client : Client κ σ) : Operation → Deployment → Activity κ σ (Except Error Deployment)
  | .create => client.createDeployment
  | .get => client.latestDeployment

/-! ### What the calls do -/

section

variable {client : Client κ σ} {operation : Operation} {request : Deployment} {scene : Scene σ}

/-- What becomes of a result when it is classified. -/
def resolved : Except Error Reply → Except Error Deployment
  | .ok reply => (classify reply).toResult
  | .error e => .error e

/-- What creating does at each attempt. -/
def creating (client : Client κ σ) (request : Deployment) (number : Nat) :
    Activity κ σ (Except Error Reply) := do
  log (.attempt number request.id)
  client.create request

theorem resolve_error (e : Error) :
    resolve operation (.error e) scene = (⟨.error e, scene, []⟩ : Ran κ σ _) := rfl

theorem resolve_ok (reply : Reply) :
    resolve operation (.ok reply) scene = (⟨(classify reply).toResult, scene,
      [.logged ((classify reply).event operation) none]⟩ : Ran κ σ _) := rfl

theorem creating_apply (number : Nat) :
    client.creating request number scene =
      ⟨(client.create request scene).value, (client.create request scene).scene,
        .logged (.attempt number request.id) none :: (client.create request scene).trace⟩ := rfl

/-- Creating is a retried run that is classified in the end. -/
theorem createDeployment_eq : client.createDeployment request =
    (client.policy.run (client.creating request) >>= resolve .create) := rfl

/-- The latest state is not asked for under a cancelled token. -/
theorem latestDeployment_of_cancelled (h : scene.token.isCancelled = true) :
    client.latestDeployment request scene = ⟨.error .cancelled, scene, []⟩ := by
  simp [latestDeployment, h]

/-- Otherwise it is asked for once. -/
theorem latestDeployment_of_not_cancelled (h : scene.token.isCancelled = false) :
    client.latestDeployment request scene = (client.get request >>= resolve .get) scene := by
  simp [latestDeployment, h]

end

end Client

end Deployer
