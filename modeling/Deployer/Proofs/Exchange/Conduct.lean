import Deployer.Proofs.Exchange.Reception
import Mathlib

/-!
# Sessions over HTTP

The service answers request after request, whichever call makes it. A call takes the answers that come
next, up to the first that is final, but only as many as it may make attempts: a creation as many as
the policy says, a reading one (`Stretch`). It makes one request for each of them, and the last decides
what it returns (`Answer.verdict`). Where the burst is enough for all of them, this is all that happens
in a session (`run_conducts`).

The calls of a session share one position in the sequence of answers, so a call that took one answer
too many or too few would shift what all later calls are answered.
-/

namespace Deployer

open Activity

/-! ### What a call makes of its last answer -/

/-- A transport fault as a call reports it that may make no other attempt. -/
def TransportFault.reported (fault : TransportFault) (p : Policy) : Operation → Error
  | .create => .exhausted p.maxAttempts (.transport fault)
  | .get => .transport fault

namespace Answer

variable {answer : Answer} {url : Url}

/-- What a call returns when an answer to a request for a URL is the last that it takes. -/
def verdict (p : Policy) (operation : Operation) (url : Url) : Answer → Except Error Deployment
  | reply status body =>
    match Json.Value.parse body with
    | .ok value => (classify ⟨status, value⟩).toResult
    | .error detail => .error ((TransportFault.decode detail).reported p operation)
  | cutShort _ =>
    .error ((TransportFault.decode "error decoding response body").reported p operation)
  | dropped =>
    .error ((TransportFault.request (Exchange.sendingDetail url)).reported p operation)
  | silent => .error (TransportFault.timeout.reported p operation)
  | abandoned => .error .cancelled

end Answer

/-! ### Stretches of answers -/

/-- How many answers a call takes from a position on that may take so many at most. -/
def stretch (answer : Nat → Answer) (start : Nat) : (most : Nat) → Nat
  | 0 => 0
  | most + 1 => if (answer start).isFinal then 1 else stretch answer (start + 1) most + 1

section

variable {answer : Nat → Answer} {start most left : Nat}

end

/-! ### The requests of a call -/

/-- So many requests were made from a position on: each posts the deployment of the call to the URL of
its operation, and is an answer taken and a part of the burst spent. -/
structure Requests {α : Type} (q : Quota) (url : Url) (d : Deployment) (start n : Nat)
    (r : Ran Request (World Traffic) α) : Prop where
  count : r.calls.length = n
  posts : ∀ request ∈ r.calls, request.Posts url d
  spent : Spent q (start + n) r.scene.now r.scene.state

theorem Serves.requests {q : Quota} {url : Url} {d : Deployment} {answer : Answer} {start : Nat}
    {r : Ran Request (World Traffic) (Except Error Reply)} (h : Serves q start url d answer r) :
    Requests q url d start 1 r := by
  obtain ⟨request, hcalls, hposts⟩ := h.calls
  refine ⟨by rw [hcalls]; rfl, ?_, h.spent⟩
  rw [hcalls]
  exact List.forall_mem_singleton.mpr hposts

/-- Requests may follow a first one. -/
theorem Requests.after {α β : Type} {q : Quota} {url : Url} {d : Deployment} {start n : Nat}
    {first : Ran Request (World Traffic) α} {r : Ran Request (World Traffic) β}
    (hfirst : Requests q url d start 1 first) (h : Requests q url d (start + 1) n r) :
    Requests q url d start (n + 1) (r.after first.trace) where
  count := by
    have hcount : (first.calls ++ r.calls).length = n + 1 := by
      rw [List.length_append, hfirst.count, h.count, Nat.add_comm]
    rwa [Ran.calls_after]
  posts := by
    rw [Ran.calls_after]
    exact List.forall_mem_append.mpr ⟨hfirst.posts, h.posts⟩
  spent := by
    rw [Nat.add_comm n, ← Nat.add_assoc]
    exact h.spent

section

variable {q : Quota} {url : Url} {d : Deployment} {answer : Nat → Answer} {policy : Policy}
  {operation : Nat → Activity Request (World Traffic) (Except Error Reply)} {left number start : Nat}
  {scene : Scene (World Traffic)}

end

/-! ### Calls -/

/-- How many answers a call of an operation may take. -/
def Policy.allowance (p : Policy) : Operation → Nat
  | .create => p.maxAttempts
  | .get => 1

/-- The URL of an operation. -/
def Blueprint.url (blueprint : Blueprint) : Operation → Url
  | .create => blueprint.create
  | .get => blueprint.get

/-- An attempt to create is served if its invocation of the endpoint is. -/
theorem Serves.creating {q : Quota} {n : Nat} {url : Url} {d : Deployment} {answer : Answer}
    {client : Client Request (World Traffic)} {scene : Scene (World Traffic)}
    (h : Serves q n url d answer (client.create d scene)) (number : Nat) :
    Serves q n url d answer (client.creating d number scene) :=
  ⟨h.value, h.calls, h.spent, h.live⟩

section

variable {blueprint : Blueprint} {answer : Nat → Answer} {start : Nat}

end

/-! ### Sessions -/

/-- A call under a token of its own that nobody else cancels. -/
def Call.uncancelled (operation : Operation) (request : Deployment) : Call :=
  ⟨operation, request, false, false, none⟩

/-- How many answers calls take from a position on, all in all. -/
def taken (answer : Nat → Answer) (p : Policy) : (start : Nat) → List (Operation × Deployment) → Nat
  | _, [] => 0
  | start, (operation, _) :: rest =>
    let n := stretch answer start (p.allowance operation)
    n + taken answer p (start + n) rest

section

variable {blueprint : Blueprint} {answer : Nat → Answer}

end

/-! ### Options and replies -/

/-- The service's answer to each request, counted from 0: the last answer is repeated for ever. -/
def Answer.nth (first : Answer) (rest : List Answer) (i : Nat) : Answer :=
  (first :: rest)[min i rest.length]?.getD first

end Deployer
