import Deployer.Proofs.Activity.Coupled
import Deployer.Proofs.Session.Admission

/-!
# Tracing is transparent

A trace layer reports how a call ended and puts what was logged meanwhile into a span. It does nothing
else: without the trace layers, wherever they stand among the limit layers, every step of a session has
the same result, takes the same time, makes the same calls at the same instants and logs the same, but
for the reports and the spans (`run_untraced`).

How many reports there are depends on where the layers stand. With the limit layer outermost, as the
client has it, a call that is rejected is not reported, and each call that reaches the far end is
reported once, before anything else is logged (`Reported`).
-/

namespace Deployer

open Activity

variable {κ σ ρ : Type}

/-! ### Traces without trace layers -/

/-- An entry as it would be without trace layers: outside of spans, and left out if it reports how a
traced call ended. -/
def Entry.untraced? : Entry κ → Option (Entry κ)
  | logged event _ => if event.endsCall then none else some (logged event none)
  | reached call => some (reached call)

/-- A report as it would be without trace layers. -/
def Report.untraced (report : Report κ) : Report κ :=
  { report with trace := report.trace.filterMap Entry.untraced? }

/-- Without trace layers the same calls reach the far end. -/
@[simp]
theorem Report.calls_untraced (report : Report κ) : report.untraced.calls = report.calls := by
  have hcall (entry : Entry κ) : entry.untraced?.bind Entry.call? = entry.call? := by
    rcases entry with ⟨event, span⟩ | call
    · cases hevent : event.endsCall <;> simp [Entry.untraced?, hevent]
    · rfl
  simp only [Report.calls, Report.untraced, List.filterMap_filterMap, hcall]

/-- A span makes no difference to what is taken out of its span. -/
theorem Entry.untraced?_comp_within (span : Span) :
    (Entry.untraced? ∘ Entry.within span : Entry κ → Option (Entry κ)) = Entry.untraced? := by
  funext entry
  rcases entry with ⟨event, _ | other⟩ | call <;> rfl

/-- What a trace layer logs is a report of how a traced call ended. -/
theorem Endpoint.endsCall_ending (elapsed : Duration) (result : Except Error Reply) :
    (Endpoint.ending elapsed result).endsCall = true := by
  rcases result with e | reply
  · cases e <;> rfl
  · rfl

/-- A trace of traced calls stands beside what it would be without trace layers. -/
def Untraces (trace trace' : List (Entry κ)) : Prop := trace' = trace.filterMap Entry.untraced?

private theorem cumulative_untraces : Cumulative (Untraces (κ := κ)) where
  nil := rfl
  append hab hcd := by rw [Untraces, hab, hcd, List.filterMap_append]
  logged h := by simp [Untraces, Entry.untraced?, h]

/-- **Layers.** If an endpoint logs nothing that only trace layers do, then taking the trace layers off
leaves its outcomes as they were. -/
theorem coupled_wrap_untraced {inner : Endpoint κ (World ρ)} {request : Deployment}
    (operation : Operation) (layers : List Layer)
    (h : ∀ scene, Untraces (inner request scene).trace (inner request scene).trace) :
    Coupled Untraces (fun _ => True) (Agree id (fun _ => True) (Same fun _ => True))
      (Layer.wrap operation layers inner request)
      (Layer.wrap operation (layers.filter (· ≠ .trace)) inner request) := by
  induction layers with
  | nil =>
    intro scene _
    exact ⟨agree_self _ trivial, rfl, h scene⟩
  | cons layer layers ih =>
    cases layer with
    | limit => exact coupled_limited cumulative_untraces.overlooks_id (fun _ _ _ => trivial) ih
    | trace =>
      intro scene hstate
      obtain ⟨hvalue, hscene, htrace⟩ := ih scene hstate
      rw [Layer.wrap_trace, Endpoint.traced_apply]
      refine ⟨hvalue, hscene, htrace.trans ?_⟩
      rw [List.filterMap_append, List.filterMap_map, Entry.untraced?_comp_within]
      simp [Entry.untraced?, Endpoint.endsCall_ending]

/-! ### Reports and calls -/

/-- Whether an entry reports how a traced call ended. -/
def Entry.endsCall : Entry κ → Bool
  | logged event _ => event.endsCall
  | reached _ => false

/-- A trace is **reported** if each call that reached the far end is followed at once by the report of
how it ended, in the span of that call, and there are no other reports. -/
inductive Reported : List (Entry Invocation) → Prop
  | nil : Reported []
  | logged {event : Event} {trace : List (Entry Invocation)} (h : event.endsCall = false)
    (htrace : Reported trace) : Reported (.logged event none :: trace)
  | reached {call : Invocation} {event : Event} {trace : List (Entry Invocation)}
    (h : event.endsCall = true) (htrace : Reported trace) :
    Reported (.reached call :: .logged event (some ⟨call.operation, call.id⟩) :: trace)

/-- A reported trace has as many reports as calls. -/
theorem Reported.countP_endsCall {trace : List (Entry Invocation)} (h : Reported trace) :
    trace.countP Entry.endsCall = (trace.filterMap Entry.call?).length := by
  induction h with
  | nil => rfl
  | logged h _ ih => simpa [Entry.endsCall, h, List.filterMap_cons] using ih
  | reached h _ ih => simpa [Entry.endsCall, h, List.filterMap_cons] using ih

/-- Reports of calls may follow one another. -/
theorem Reported.append {a b : List (Entry Invocation)} (ha : Reported a) (hb : Reported b) :
    Reported (a ++ b) := by
  induction ha with
  | nil => exact hb
  | logged h _ ih => exact .logged h ih
  | reached h _ ih => exact .reached h ih

/-- To be reported is a property of single traces. -/
private theorem cumulative_reported : Cumulative fun trace _ => Reported trace where
  nil := .nil
  append := Reported.append
  logged h := .logged h .nil

/-- A scripted endpoint in a span, behind a limit layer, is reported. -/
private theorem coupled_wrap_reported (script : Script) (operation : Operation)
    (request : Deployment) :
    Coupled (fun trace _ => Reported trace) (fun _ => True)
      (Agree id (fun _ => True) (Same fun _ => True))
      (Layer.wrap operation [.limit, .trace] (script.endpoint operation) request)
      (Layer.wrap operation [.limit, .trace] (script.endpoint operation) request) := by
  rw [Layer.wrap_limit, Layer.wrap_trace, Layer.wrap_nil]
  refine coupled_limited cumulative_reported.overlooks_id (fun _ _ _ => trivial) fun scene _ => ?_
  rw [Endpoint.traced_apply, Script.endpoint_apply]
  exact ⟨agree_self _ trivial, rfl, .reached (Endpoint.endsCall_ending _ _) .nil⟩

/-! ### Sessions -/

section

variable (create get : Script) (createLayers getLayers : List Layer) (policy : Policy)

/-- **Step.** A step with trace layers comes to what it comes to without them. -/
theorem step_untraced (s : Session (World Positions)) (step : Step) :
    s.step (Script.layered create get (createLayers.filter (· ≠ .trace))
        (getLayers.filter (· ≠ .trace)) policy) step =
      ((s.step (Script.layered create get createLayers getLayers policy) step).1.untraced,
        (s.step (Script.layered create get createLayers getLayers policy) step).2) := by
  have hperform (operation : Operation) (request : Deployment) :
      Coupled Untraces (fun _ => True) (Agree id (fun _ => True) (Same fun _ => True))
        ((Script.layered create get createLayers getLayers policy).perform operation request)
        ((Script.layered create get (createLayers.filter (· ≠ .trace))
          (getLayers.filter (· ≠ .trace)) policy).perform operation request) := by
    have hscript (script : Script) (operation : Operation) (request : Deployment)
        (scene : Scene (World Positions)) : Untraces (script.endpoint operation request scene).trace
          (script.endpoint operation request scene).trace := by
      rw [Script.endpoint_apply]
      rfl
    refine coupled_perform cumulative_untraces.overlooks_id ?_ ?_ ?_ operation request
    · rfl
    · exact fun request =>
        coupled_wrap_untraced .create createLayers (hscript create .create request)
    · exact fun request => coupled_wrap_untraced .get getLayers (hscript get .get request)
  obtain ⟨hsession, hresult, helapsed, htrace⟩ := Session.coupled_step cumulative_untraces s step
    trivial fun call _ => hperform call.operation call.request
  refine Prod.ext ?_ hsession
  generalize (s.step (Script.layered create get (createLayers.filter (· ≠ .trace))
    (getLayers.filter (· ≠ .trace)) policy) step).1 = report at hresult helapsed htrace ⊢
  obtain ⟨result, elapsed, trace⟩ := report
  rw [Report.untraced, hresult.eq fun _ _ => eq_of_agree, ← helapsed, ← htrace]

/-- A step of a client whose endpoints lie behind a limit layer and then a trace layer is reported. -/
theorem reported_step (s : Session (World Positions)) (step : Step) :
    Reported
      (s.step (Script.layered create get [.limit, .trace] [.limit, .trace] policy) step).1.trace :=
  (Session.coupled_step cumulative_reported s step trivial fun call _ =>
    coupled_perform cumulative_reported.overlooks_id rfl (coupled_wrap_reported create .create)
      (coupled_wrap_reported get .get) call.operation call.request).2.trace

/-- **Tracing is transparent.** From any state of a session, with any limiter, and for any list of
steps: a client whose endpoints lie behind limit and trace layers in any order does what it does
without its trace layers. Each step has the same result, takes the same time and makes the same calls
at the same instants, and the session ends alike. The log is the same too, less the reports of how
traced calls ended, and outside of spans. If each endpoint lies behind a limit layer and then a trace
layer, every step reports each call that reached the far end, at once and once, and nothing else. -/
theorem run_untraced (s : Session (World Positions)) (steps : List Step) :
    s.run (Script.layered create get (createLayers.filter (· ≠ .trace))
        (getLayers.filter (· ≠ .trace)) policy) steps =
      ((s.run (Script.layered create get createLayers getLayers policy) steps).1.map
          Report.untraced,
        (s.run (Script.layered create get createLayers getLayers policy) steps).2) ∧
    ∀ report ∈ (s.run (Script.layered create get [.limit, .trace] [.limit, .trace] policy) steps).1,
      Reported report.trace ∧ report.trace.countP Entry.endsCall = report.calls.length := by
  refine ⟨?_, fun report hreport => ?_⟩
  · induction steps generalizing s with
    | nil => rfl
    | cons first rest ih =>
      rw [Session.run_cons, Session.run_cons, step_untraced, ih, List.map_cons]
  · suffices hreported : Reported report.trace from ⟨hreported, hreported.countP_endsCall⟩
    induction steps generalizing s with
    | nil => cases hreport
    | cons first rest ih =>
      rw [Session.run_cons] at hreport
      rcases List.mem_cons.mp hreport with rfl | hrest
      · exact reported_step create get policy s first
      · exact ih _ hrest

end

/-- A creation that times out, is rejected, and succeeds at its third attempt: two calls reach the far
end, and there are two reports, none of them for the rejection. Without the trace layers the log lacks
the two reports. -/
theorem run_untraced_rejected :
    let q : Quota := ⟨.ofMillis 100, 1, by decide, by decide⟩
    let script : Script := .ofList ⟨.ofMillis 10, false, .error (.transport .timeout)⟩
      [⟨0, false, .ok ⟨200, .array [.string "d", .string "ready"]⟩⟩]
    let client (layers : List Layer) := script.layered script layers layers ⟨.ofMillis 50, 4⟩
    let create : Step := .call ⟨.create, .plain "d" "new", false, false, none⟩
    let report := ((Session.metered q).step (client [.limit, .trace]) create).1
    report ∈ ((Session.metered q).run (client [.limit, .trace]) [create]).1 ∧
      report.calls = [⟨.create, 0, "d"⟩, ⟨.create, .ofMillis 110, "d"⟩] ∧
      .logged (.rejected (.rateLimited (.ofMillis 40))) none ∈ report.trace ∧
      Reported report.trace ∧ report.trace.countP Entry.endsCall = 2 ∧ report.trace.length = 11 ∧
      (((Session.metered q).run (client [.limit]) [create]).1.map fun r => r.trace.length) = [9] := by
  intro q script client create report
  obtain ⟨hbare, hreports⟩ := run_untraced script script [.limit, .trace] [.limit, .trace]
    ⟨.ofMillis 50, 4⟩ (Session.metered q) [create]
  have hmem : report ∈ ((Session.metered q).run (client [.limit, .trace]) [create]).1 :=
    List.mem_cons_self
  have hlengths := congrArg (fun ran => ran.1.map fun r => r.trace.length) hbare
  have hreported := (hreports report hmem).1
  subst report create client script q
  exact ⟨hmem, by rfl, by decide, hreported, by rfl, by rfl, hlengths⟩

end Deployer
