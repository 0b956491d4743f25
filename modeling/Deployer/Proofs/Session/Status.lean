import Deployer.Proofs.Activity.Coupled
import Deployer.Proofs.Reply.Classification
import Deployer.Proofs.Session.Admission

/-!
# The status never decides anything

A reply has the status of the transport, but what the client does depends on the body alone. If two
clients are answered by scripts that differ in nothing but the statuses of replies, then whatever steps
they take, they make the same calls at the same instants, take the same time, and come to the same
results, with one exception (`run_of_sameButStatus`): a service error whose body supplies no usable
code takes its code from the status (`CodeByStatus`).

The logs do differ: a trace layer reports the status.
-/

namespace Deployer

open Activity

variable {κ σ ρ α β : Type}

/-! ### Replies -/

/-- Results of two replies that **differ in the code that the status gives**: the replies have the same
body, which is a service error without a usable code. -/
inductive CodeByStatus :
    (answer answer' : Except Error Reply) → (result result' : Except Error Deployment) → Prop
  | intro {status status' : UInt16} {body : Json.Value} {message : String}
    (hdeployment : ∀ d, ¬ Deployment.Shape body d)
    (herror : ServiceError.Shape body ⟨message, none⟩) :
    CodeByStatus (.ok ⟨status, body⟩) (.ok ⟨status', body⟩)
      (.error (.service (ServiceError.underStatus ⟨message, none⟩ status)))
      (.error (.service (ServiceError.underStatus ⟨message, none⟩ status')))

/-- **What a reply is taken for** does not depend on its status, except for the code of a service error
that has none of its own. -/
theorem toResult_classify_cases (status status' : UInt16) (body : Json.Value) :
    (classify ⟨status', body⟩).toResult = (classify ⟨status, body⟩).toResult ∨
      CodeByStatus (.ok ⟨status, body⟩) (.ok ⟨status', body⟩) (classify ⟨status, body⟩).toResult
        (classify ⟨status', body⟩).toResult := by
  cases hdeployment : Deployment.ofValue? body with
  | some d => exact .inl (by simp [classify, hdeployment])
  | none =>
    cases herror : ServiceError.ofValue? body with
    | none => exact .inl (by simp [classify, hdeployment, herror])
    | some e =>
      obtain ⟨message, _ | code⟩ := e
      · refine .inr ?_
        simp only [classify, hdeployment, herror, Outcome.toResult]
        refine .intro (fun d hd => ?_) (ServiceError.ofValue?_eq_some_iff.mp herror)
        rw [Deployment.ofValue?_eq_some_iff.mpr hd] at hdeployment
        cases hdeployment
      · exact .inl (by simp [classify, hdeployment, herror, ServiceError.underStatus_eq])

/-! ### Scripts -/

/-- Two turns are the **same but for the status** if they take the same time, cancel alike, and answer
with the same error or with the same body. -/
structure Turn.SameButStatus (turn turn' : Turn) : Prop where
  delay : turn'.delay = turn.delay
  cancels : turn'.cancels = turn.cancels
  answer : turn'.answer.map Reply.body = turn.answer.map Reply.body

/-- Turns that differ in a status take the same time. -/
theorem Turn.SameButStatus.ending_eq {turn turn' : Turn} (h : turn.SameButStatus turn')
    (scene : Scene σ) : turn'.ending scene = turn.ending scene := by
  rw [Turn.ending, Turn.ending, h.delay, h.cancels]

theorem Positions.count_advance (positions : Positions) (operation : Operation) :
    (positions.advance operation).count operation = positions.count operation + 1 := by
  cases operation <;> rfl

/-- The same calls reach the far end in two traces. -/
def SameCalls (trace trace' : List (Entry κ)) : Prop :=
  trace.filterMap Entry.call? = trace'.filterMap Entry.call?

private theorem cumulative_sameCalls : Cumulative (SameCalls (κ := κ)) where
  nil := rfl
  append hab hcd := by rw [SameCalls, List.filterMap_append, List.filterMap_append, hab, hcd]
  logged _ := rfl

section

variable (script script' : Script) (operation : Operation) (first : Nat)

/-- The script of an operation has been played up to a turn at least. -/
def PlayedTo (world : World Positions) : Prop := first ≤ world.far.count operation

/-- Two replies are answers of the turn that two scripts played last, and that is not before a turn. -/
def PlayedLast (reply reply' : Reply) (world : World Positions) : Prop :=
  ∃ i, first ≤ i ∧ world.far.count operation = i + 1 ∧ (script i).answer = .ok reply ∧
    (script' i).answer = .ok reply'

/-- Two results are the same, or differ in the code that the status gives to the answer of the turn
that was played last. -/
def SameButCode (result result' : Except Error Deployment) (world : World Positions) : Prop :=
  result' = result ∨ ∃ i, first ≤ i ∧ world.far.count operation = i + 1 ∧
    CodeByStatus (script i).answer (script' i).answer result result'

variable {script script' operation first} {request : Deployment}

/-- Scripts that are the same but for statuses are played alike. -/
private theorem coupled_endpoint_of_sameButStatus
    (hscript : ∀ i, (script i).SameButStatus (script' i)) :
    Coupled SameCalls (PlayedTo operation first)
      (Agree id (PlayedTo operation first) (PlayedLast script script' operation first))
      (script.endpoint operation request) (script'.endpoint operation request) := by
  intro scene hfirst
  have hturn := hscript (scene.state.far.count operation)
  rw [Script.endpoint_apply, Script.endpoint_apply]
  refine ⟨?_, hturn.ending_eq _, rfl⟩
  rw [Turn.state_ending]
  have hanswer := hturn.answer
  have hcount := scene.state.far.count_advance operation
  cases hreply : (script (scene.state.far.count operation)).answer with
  | error e =>
    cases hreply' : (script' (scene.state.far.count operation)).answer with
    | error e' =>
      rw [hreply, hreply'] at hanswer
      cases hanswer
      exact .error (Nat.le_trans hfirst (by simp [hcount]))
    | ok reply' =>
      rw [hreply, hreply'] at hanswer
      cases hanswer
  | ok reply =>
    cases hreply' : (script' (scene.state.far.count operation)).answer with
    | error e' =>
      rw [hreply, hreply'] at hanswer
      cases hanswer
    | ok reply' => exact .ok ⟨_, hfirst, hcount, hreply, hreply'⟩

/-- **Layers** keep the scripts played alike, since a trace layer makes no calls and a limit layer does
not look at replies. -/
theorem coupled_wrap_of_sameButStatus (hscript : ∀ i, (script i).SameButStatus (script' i))
    (layers : List Layer) :
    Coupled SameCalls (PlayedTo operation first)
      (Agree id (PlayedTo operation first) (PlayedLast script script' operation first))
      (Layer.wrap operation layers (script.endpoint operation) request)
      (Layer.wrap operation layers (script'.endpoint operation) request) := by
  induction layers with
  | nil => exact coupled_endpoint_of_sameButStatus hscript
  | cons layer layers ih =>
    cases layer with
    | limit => exact coupled_limited cumulative_sameCalls.overlooks_id (fun _ _ h => h) ih
    | trace => exact coupled_traced operation ih

/-- The answers of one turn are classified alike, except for the code that the status gives. -/
private theorem coupled_resolve_of_sameButStatus
    (hscript : ∀ i, (script i).SameButStatus (script' i)) (reply reply' : Reply) :
    Coupled SameCalls (PlayedLast script script' operation first reply reply')
      (SameButCode script script' operation first)
      (Client.resolve operation (.ok reply) : Activity Invocation (World Positions) _)
      (Client.resolve operation (.ok reply')) := by
  rintro scene ⟨i, hfirst, hcount, hreply, hreply'⟩
  have hbody := (hscript i).answer
  rw [hreply, hreply'] at hbody
  obtain ⟨status, body⟩ := reply
  obtain ⟨status', body'⟩ := reply'
  obtain rfl : body' = body := Except.ok.inj hbody
  refine ⟨(toResult_classify_cases status status' body').imp_right fun hcode => ?_, rfl, rfl⟩
  exact ⟨i, hfirst, hcount, by rwa [hreply, hreply']⟩

end

/-! ### Sessions -/

/-- The script that is played for an operation. -/
def Script.played (create get : Script) : Operation → Script
  | .create => create
  | .get => get

section

variable {create create' get get' : Script} (createLayers getLayers : List Layer) (policy : Policy)

/-- The calls of two clients whose scripts are the same but for statuses. -/
private theorem coupled_perform_of_sameButStatus
    (hcreate : ∀ i, (create i).SameButStatus (create' i))
    (hget : ∀ i, (get i).SameButStatus (get' i)) (operation : Operation) (request : Deployment)
    (first : Nat) :
    Coupled SameCalls (PlayedTo operation first)
      (SameButCode (create.played get operation) (create'.played get' operation) operation first)
      ((Script.layered create get createLayers getLayers policy).perform operation request)
      ((Script.layered create' get' createLayers getLayers policy).perform operation request) := by
  cases operation with
  | create =>
    exact coupled_createDeployment cumulative_sameCalls.overlooks_id rfl
      (coupled_wrap_of_sameButStatus hcreate createLayers)
      (coupled_resolve_of_sameButStatus hcreate) fun _ _ _ => .inl rfl
  | get =>
    exact coupled_latestDeployment cumulative_sameCalls.overlooks_id
      (coupled_wrap_of_sameButStatus hget getLayers)
      (coupled_resolve_of_sameButStatus hget) fun _ _ _ => .inl rfl

/-- **Step.** A step of either client leaves the session alike, after the same calls and the same time,
with the same result, except for the code that the status gives to the reply that came last. -/
theorem step_of_sameButStatus (hcreate : ∀ i, (create i).SameButStatus (create' i))
    (hget : ∀ i, (get i).SameButStatus (get' i)) (s : Session (World Positions)) (step : Step) :
    let ran := s.step (Script.layered create get createLayers getLayers policy) step
    let ran' := s.step (Script.layered create' get' createLayers getLayers policy) step
    ran'.2 = ran.2 ∧ ran'.1.calls = ran.1.calls ∧ ran'.1.elapsed = ran.1.elapsed ∧
      (ran'.1.result = ran.1.result ∨ ∃ call result result' i, step = .call call ∧
        ran.1.result = .called result ∧ ran'.1.result = .called result' ∧
        s.state.far.count call.operation ≤ i ∧ ran.2.state.far.count call.operation = i + 1 ∧
        CodeByStatus (create.played get call.operation i).answer
          (create'.played get' call.operation i).answer result result') := by
  intro ran ran'
  cases step with
  | call call =>
    obtain ⟨hsession, hresult, helapsed, hcalls⟩ := Session.coupled_step cumulative_sameCalls s
      (.call call) (Nat.le_refl (s.state.far.count call.operation)) (by
        rintro _ ⟨rfl⟩
        exact coupled_perform_of_sameButStatus createLayers getLayers policy hcreate hget
          call.operation call.request (s.state.far.count call.operation))
    refine ⟨hsession, hcalls.symm, helapsed, hresult.eq_or.imp_right ?_⟩
    rintro ⟨result, result', hcalled, hcalled', i, hfirst, hcount, hcode⟩
    exact ⟨call, result, result', i, rfl, hcalled, hcalled', hfirst, hcount, hcode⟩
  | sleep duration => exact ⟨rfl, rfl, rfl, .inl rfl⟩
  | cancel => exact ⟨rfl, rfl, rfl, .inl rfl⟩

/-- **The status never decides anything.** Two clients have the same layers and the same policy, and
are answered by scripts that are the same but for the statuses of replies. Let both take any steps from
the same state, and then one more. The sessions are alike before and after it; it makes the same calls
at the same instants and takes the same time; and it has the same result, unless the reply that it got
last is a service error whose body supplies no usable code. Then the results are that error, each with
the code that its status gives. -/
theorem run_of_sameButStatus (hcreate : ∀ i, (create i).SameButStatus (create' i))
    (hget : ∀ i, (get i).SameButStatus (get' i)) (s : Session (World Positions))
    (before : List Step) (step : Step) :
    let client := Script.layered create get createLayers getLayers policy
    let client' := Script.layered create' get' createLayers getLayers policy
    let now := (s.run client before).2
    let ran := now.step client step
    let ran' := (s.run client' before).2.step client' step
    (s.run client' before).2 = now ∧ ran'.2 = ran.2 ∧ ran'.1.calls = ran.1.calls ∧
      ran'.1.elapsed = ran.1.elapsed ∧
      (ran'.1.result = ran.1.result ∨ ∃ call result result' i, step = .call call ∧
        ran.1.result = .called result ∧ ran'.1.result = .called result' ∧
        now.state.far.count call.operation ≤ i ∧ ran.2.state.far.count call.operation = i + 1 ∧
        CodeByStatus (create.played get call.operation i).answer
          (create'.played get' call.operation i).answer result result') := by
  intro client client' now ran ran'
  have hstep := step_of_sameButStatus createLayers getLayers policy hcreate hget
  have hnow : (s.run client' before).2 = now := by
    clear ran ran'
    induction before generalizing s with
    | nil => rfl
    | cons first rest ih =>
      rw [Session.run_cons, (hstep s first).1]
      exact ih _
  refine ⟨hnow, ?_⟩
  have hran : ran' = now.step client' step := congrArg (fun s => s.step client' step) hnow
  rw [hran]
  exact hstep now step

end

/-- After a timeout, a creation gets an error without a code under one of two statuses, and a reading
an error with a code. The creation has the code 429 or none, and the reading the code 409 either way. -/
theorem run_of_sameButStatus_refused :
    let q : Quota := ⟨.ofMillis 100, 2, by decide, by decide⟩
    let create (status : UInt16) : Script := fun i => ⟨.ofMillis 10, false,
      if i = 0 then .error (.transport .timeout)
      else .ok ⟨status, .object [("message", .string "quota exceeded")]⟩⟩
    let get (status : UInt16) : Script := fun _ => ⟨0, false,
      .ok ⟨status, .array [.string "conflict", .number (.int 409)]⟩⟩
    let client (status : UInt16) := (create status).layered (get status) [.limit, .trace]
      [.trace, .limit] ⟨.ofMillis 50, 3⟩
    let call (operation : Operation) : Step :=
      .call ⟨operation, .plain "d" "new", false, false, none⟩
    let ran (status : UInt16) (steps : List Step) (step : Step) :=
      ((Session.metered q).run (client status) steps).2.step (client status) step
    (∀ i, (create 429 i).SameButStatus (create 200 i)) ∧
      (∀ i, (get 429 i).SameButStatus (get 200 i)) ∧
      (ran 429 [] (call .create)).1.result =
        .called (.error (.service ⟨"quota exceeded", some 429⟩)) ∧
      (ran 200 [] (call .create)).1.result = .called (.error (.service ⟨"quota exceeded", none⟩)) ∧
      (ran 200 [] (call .create)).1.elapsed = (ran 429 [] (call .create)).1.elapsed ∧
      (ran 429 [] (call .create)).1.elapsed = Duration.ofMillis 70 ∧
      (ran 429 [call .create, .sleep (.ofMillis 50)] (call .get)).1.result =
        .called (.error (.service ⟨"conflict", some 409⟩)) ∧
      (ran 200 [call .create, .sleep (.ofMillis 50)] (call .get)).1.calls =
        (ran 429 [call .create, .sleep (.ofMillis 50)] (call .get)).1.calls := by
  intro q create get client call ran
  have hcreate (i : Nat) : (create 429 i).SameButStatus (create 200 i) := by
    refine ⟨rfl, rfl, ?_⟩
    by_cases hi : i = 0 <;> simp [create, hi, Except.map]
  have hget (i : Nat) : (get 429 i).SameButStatus (get 200 i) := ⟨rfl, rfl, rfl⟩
  have hrun := run_of_sameButStatus [.limit, .trace] [.trace, .limit] ⟨.ofMillis 50, 3⟩ hcreate hget
    (Session.metered q)
  have helapsed := (hrun [] (call .create)).2.2.2.1
  have hcalls := (hrun [call .create, .sleep (.ofMillis 50)] (call .get)).2.2.1
  subst ran call client get create q
  exact ⟨hcreate, hget, by rfl, by rfl, helapsed, by rfl, by rfl, hcalls⟩

end Deployer
