import Deployer.Proofs.Activity.Invariant

/-!
# Activities side by side

Two clients may be compared without saying what either of them does. Two activities are `Coupled` if
from the same scene they come to the same scene, with values and traces that are related. How traces
are related is left open; the relation only has to be `Cumulative`, so that it passes from the parts of
an activity to the whole. How values are related may depend on the state in which the activities end,
and something may be asked of the state in which they begin. Failures may be worded differently on
either side (`Rewords`), if the relation between traces overlooks it.

* `Coupled.bind`: activities are coupled if their parts are.
* `coupled_run`: retried runs are coupled if their attempts are. It is enough that the attempts fail
  alike but for the wording, since nothing else decides whether there is another one.
* `coupled_createDeployment`, `coupled_latestDeployment`: so are the calls of two clients.
* `coupled_limited`: one limiter rejects either both of two calls or none.

A property of single traces is the case in which an activity stands beside itself.
-/

namespace Deployer

variable {κ σ ρ α β γ δ : Type}

/-- A relation between traces is **cumulative** if it holds of one trace after another if it holds of
both, and of the same report on either side; the reports of trace layers apart. -/
structure Cumulative (T : List (Entry κ) → List (Entry κ) → Prop) : Prop where
  nil : T [] []
  append {a b c d : List (Entry κ)} (hab : T a b) (hcd : T c d) : T (a ++ c) (b ++ d)
  logged {event : Event} (h : event.endsCall = false) :
    T [.logged event none] [.logged event none]

/-- A function that **rewords** errors: it changes nothing but faults of the transport, and what is
done about an error does not depend on it. -/
structure Rewords (f : Error → Error) : Prop where
  isRetryable (e : Error) : (f e).isRetryable = e.isRetryable
  exhausted (attempts : Nat) (e : Error) : f (.exhausted attempts e) = .exhausted attempts (f e)
  cancelled : f .cancelled = .cancelled
  rateLimited (wait : Duration) : f (.rateLimited wait) = .rateLimited wait
  service (e : ServiceError) : f (.service e) = .service e
  unexpected (d : Diagnostic) : f (.unexpected d) = .unexpected d

/-- A relation between traces **overlooks** a rewording if it holds of what is logged of an error and of
the same error reworded. -/
structure Overlooks (T : List (Entry κ) → List (Entry κ) → Prop) (f : Error → Error) : Prop
    extends Cumulative T, Rewords f where
  retrying (number most : Nat) (e : Error) (interval : Duration) :
    T [.logged (.retrying number most e interval) none]
      [.logged (.retrying number most (f e) interval) none]
  gaveUp (number : Nat) (elapsed : Duration) (e : Error) :
    T [.logged (.gaveUp number elapsed e) none] [.logged (.gaveUp number elapsed (f e)) none]

/-- Errors that are left as they are need not be overlooked. -/
theorem Cumulative.overlooks_id {T : List (Entry κ) → List (Entry κ) → Prop} (hT : Cumulative T) :
    Overlooks T id where
  toCumulative := hT
  isRetryable _ := rfl
  exhausted _ _ := rfl
  cancelled := rfl
  rateLimited _ := rfl
  service _ := rfl
  unexpected _ := rfl
  retrying _ _ _ _ := hT.logged rfl
  gaveUp _ _ _ := hT.logged rfl

/-- Two endings are **coupled** if they leave the same scene, after traces that are related, with
values that are related in the state that they leave. -/
structure Ran.Coupled (T : List (Entry κ) → List (Entry κ) → Prop) (Q : α → β → σ → Prop)
    (r : Ran κ σ α) (r' : Ran κ σ β) : Prop where
  value : Q r.value r'.value r.scene.state
  scene : r'.scene = r.scene
  trace : T r.trace r'.trace

/-- Outcomes **agree** if they are the same failure but for the wording, in a state of which something
holds, or values that are related. -/
inductive Agree (f : Error → Error) (P : σ → Prop) (V : α → β → σ → Prop) :
    Except Error α → Except Error β → σ → Prop
  | error {e : Error} {state : σ} (h : P state) : Agree f P V (.error e) (.error (f e)) state
  | ok {a : α} {b : β} {state : σ} (h : V a b state) : Agree f P V (.ok a) (.ok b) state

/-- A failure that no rewording changes agrees with itself. -/
theorem Agree.error_self {f : Error → Error} {P : σ → Prop} {V : α → β → σ → Prop} {e : Error}
    {state : σ} (he : f e = e) (h : P state) : Agree f P V (.error e) (.error e) state := by
  have hagree : Agree f P V (.error e) (.error (f e)) state := .error h
  rwa [he] at hagree

namespace Activity

/-- Two activities are **coupled** if their endings are, wherever both begin in the same scene and
something holds of its state. -/
def Coupled (T : List (Entry κ) → List (Entry κ) → Prop) (P : σ → Prop) (Q : α → β → σ → Prop)
    (a : Activity κ σ α) (b : Activity κ σ β) : Prop :=
  ∀ scene, P scene.state → (a scene).Coupled T Q (b scene)

/-- The values are the same, in a state of which something holds. -/
def Same (P : σ → Prop) (x y : α) (state : σ) : Prop := x = y ∧ P state

section

variable {T : List (Entry κ) → List (Entry κ) → Prop} (hT : Cumulative T) {P : σ → Prop}
  {Q : γ → δ → σ → Prop} {R : α → β → σ → Prop} {V : α → β → σ → Prop}

/-! ### Parts and wholes -/

/-- An outcome agrees with itself. -/
theorem agree_self {P : σ → Prop} (outcome : Except Error α) {state : σ} (h : P state) :
    Agree id P (Same P) outcome outcome state := by
  cases outcome with
  | error e => exact .error h
  | ok a => exact .ok ⟨rfl, h⟩

/-- Outcomes that agree on the same values are the same but for the wording. -/
theorem mapError_of_agree {f : Error → Error} {P Q : σ → Prop} {x y : Except Error α} {state : σ}
    (h : Agree f P (Same Q) x y state) : x.mapError f = y := by
  rcases h with _ | ⟨rfl, -⟩ <;> rfl

/-- Results that agree word for word are equal. -/
theorem eq_of_agree {P Q : σ → Prop} {x y : Except Error α} {state : σ}
    (h : Agree id P (Same Q) x y state) : x = y := by
  rw [← mapError_of_agree h]
  cases x <;> rfl

theorem coupled_log_of {event event' : Event} (h : T [.logged event none] [.logged event' none]) :
    Coupled T P (Same P) (log event : Activity κ σ _) (log event') := fun _ hstate =>
  ⟨⟨rfl, hstate⟩, rfl, h⟩

theorem coupled_reach {call call' : κ} (h : T [.reached call] [.reached call']) :
    Coupled T P (Same P) (reach call : Activity κ σ _) (reach call') := fun _ hstate =>
  ⟨⟨rfl, hstate⟩, rfl, h⟩

/-- Of coupled activities less may be said in the end. -/
theorem Coupled.imp {Q' : γ → δ → σ → Prop} {a : Activity κ σ γ} {b : Activity κ σ δ}
    (h : Coupled T P Q a b) (hQ : ∀ {x y state}, Q x y state → Q' x y state) : Coupled T P Q' a b :=
  fun scene hstate => ⟨hQ (h scene hstate).value, (h scene hstate).scene, (h scene hstate).trace⟩

/-- What follows the same value is coupled if it is for each value. -/
theorem Coupled.of_same {next : α → Activity κ σ γ} {next' : α → Activity κ σ δ}
    (h : ∀ x, Coupled T P Q (next x) (next' x)) (x y : α) :
    Coupled T (Same P x y) Q (next x) (next' y) := by
  rintro scene ⟨rfl, hstate⟩
  exact h x scene hstate

include hT

theorem coupled_pure {c : γ} {d : δ} (h : ∀ state, P state → Q c d state) :
    Coupled T P Q (pure c : Activity κ σ γ) (pure d) := fun scene hstate =>
  ⟨h scene.state hstate, rfl, hT.nil⟩

/-- **One activity after another** is coupled with one after another if the parts are coupled, the
second ones from whatever the first ones leave. -/
theorem Coupled.bind {first : Activity κ σ α} {first' : Activity κ σ β}
    {next : α → Activity κ σ γ} {next' : β → Activity κ σ δ} (hfirst : Coupled T P R first first')
    (hnext : ∀ x y, Coupled T (R x y) Q (next x) (next' y)) :
    Coupled T P Q (first >>= next) (first' >>= next') := by
  intro scene hstate
  obtain ⟨hvalue, hscene, htrace⟩ := hfirst scene hstate
  obtain ⟨hvalue', hscene', htrace'⟩ := hnext _ _ (first scene).scene hvalue
  rw [bind_apply, bind_apply, hscene]
  exact ⟨hvalue', hscene', hT.append htrace htrace'⟩

private theorem coupled_now : Coupled T P (Same P) (now : Activity κ σ _) now := fun _ hstate =>
  ⟨⟨rfl, hstate⟩, rfl, hT.nil⟩

theorem coupled_state : Coupled T P (Same P) (state : Activity κ σ _) state := fun _ hstate =>
  ⟨⟨rfl, hstate⟩, rfl, hT.nil⟩

theorem coupled_setState {new : σ} (h : P new) :
    Coupled T P (Same P) (setState new : Activity κ σ _) (setState new) := fun _ _ =>
  ⟨⟨rfl, h⟩, rfl, hT.nil⟩

theorem coupled_cancel : Coupled T P (Same P) (cancel : Activity κ σ _) cancel := fun _ hstate =>
  ⟨⟨rfl, hstate⟩, rfl, hT.nil⟩

private theorem coupled_isCancelled :
    Coupled T P (Same P) (isCancelled : Activity κ σ _) isCancelled :=
  fun _ hstate => ⟨⟨rfl, hstate⟩, rfl, hT.nil⟩

private theorem coupled_log {event : Event} (h : event.endsCall = false) :
    Coupled T P (Same P) (log event : Activity κ σ _) (log event) :=
  coupled_log_of (hT.logged h)

/-- A pause leaves the state alone. -/
theorem coupled_pause (d : Duration) : Coupled T P (Same P) (pause d : Activity κ σ _) (pause d) := by
  intro scene hstate
  rw [pause]
  split
  next => exact ⟨⟨rfl, hstate⟩, rfl, hT.nil⟩
  next => exact ⟨⟨rfl, hstate⟩, rfl, hT.nil⟩
  next => split <;> exact ⟨⟨rfl, hstate⟩, rfl, hT.nil⟩

end

/-! ### Retried runs -/

section

variable {T : List (Entry κ) → List (Entry κ) → Prop} {f : Error → Error} (hf : Overlooks T f)
  {P : σ → Prop} {V : α → β → σ → Prop}

section

variable {number : Nat} {operation : Activity κ σ (Except Error α)}
  {operation' : Activity κ σ (Except Error β)} {next : Error → Activity κ σ (Except Error α)}
  {next' : Error → Activity κ σ (Except Error β)}

include hf

/-- Two activities that are cancelled agree. -/
private theorem coupled_cancelled : Coupled T P (Agree f P V)
    (pure (.error .cancelled) : Activity κ σ (Except Error α))
    (pure (.error .cancelled) : Activity κ σ (Except Error β)) :=
  coupled_pure hf.toCumulative fun _ => .error_self hf.cancelled

/-- An attempt agrees if the operation does, and whatever follows a failure. -/
private theorem coupled_attempt (hoperation : Coupled T P (Agree f P V) operation operation')
    (hnext : ∀ e, Coupled T P (Agree f P V) (next e) (next' (f e))) :
    Coupled T P (Agree f P V) (Policy.attempt number operation next)
      (Policy.attempt number operation' next') := by
  have hT := hf.toCumulative
  refine (coupled_isCancelled hT).bind hT (.of_same fun cancelled => ?_)
  cases cancelled with
  | true => exact (coupled_log hT rfl).bind hT (.of_same fun _ => coupled_cancelled hf)
  | false =>
    refine hoperation.bind hT fun x y scene hagree => ?_
    rcases hagree with ⟨hstate⟩ | ⟨hvalue⟩
    · rename_i e
      have hreworded := hf.isRetryable e
      cases hagain : e.isRetryable with
      | true => simpa [hagain, hreworded] using hnext e scene hstate
      | false =>
        simpa [hagain, hreworded] using coupled_pure hT (fun _ => .error) scene hstate
    · exact ⟨.ok hvalue, rfl, hT.nil⟩

/-- Giving up agrees, as long as the failures do. -/
private theorem coupled_giveUp (started : Duration) (number : Nat) (e : Error) :
    Coupled T P (Agree f P V) (Policy.giveUp started number e)
      (Policy.giveUp started number (f e)) := by
  have hT := hf.toCumulative
  refine (coupled_now hT).bind hT (.of_same fun _ => ?_)
  refine (coupled_log_of (hf.gaveUp _ _ e)).bind hT (.of_same fun _ => coupled_pure hT fun _ h => ?_)
  rw [← hf.exhausted]
  exact .error h

/-- A wait between attempts agrees if what follows it does. -/
private theorem coupled_await (p : Policy) (number : Nat) (e : Error)
    {next : Activity κ σ (Except Error α)} {next' : Activity κ σ (Except Error β)}
    (hnext : Coupled T P (Agree f P V) next next') :
    Coupled T P (Agree f P V) (p.await number e next) (p.await number (f e) next') := by
  have hT := hf.toCumulative
  refine (coupled_log_of (hf.retrying _ _ e _)).bind hT (.of_same fun _ => ?_)
  refine (coupled_pause hT _).bind hT (.of_same fun cancelled => ?_)
  cases cancelled with
  | true => exact (coupled_log hT rfl).bind hT (.of_same fun _ => coupled_cancelled hf)
  | false => exact hnext

end

include hf

/-- Attempts that follow one another are coupled if each two are. -/
theorem coupled_attempts (p : Policy) (started : Duration)
    {operation : Nat → Activity κ σ (Except Error α)}
    {operation' : Nat → Activity κ σ (Except Error β)}
    (hoperation : ∀ number, Coupled T P (Agree f P V) (operation number) (operation' number))
    (left number : Nat) :
    Coupled T P (Agree f P V) (p.attempts started operation left number)
      (p.attempts started operation' left number) := by
  induction left generalizing number with
  | zero => exact coupled_attempt hf (hoperation _) fun e => coupled_giveUp hf _ _ e
  | succ left ih => exact coupled_attempt hf (hoperation _) fun e => coupled_await hf p _ e (ih _)

/-- **Retried runs** are coupled if each two attempts are. -/
theorem coupled_run (p : Policy) {operation : Nat → Activity κ σ (Except Error α)}
    {operation' : Nat → Activity κ σ (Except Error β)}
    (hoperation : ∀ number, Coupled T P (Agree f P V) (operation number) (operation' number)) :
    Coupled T P (Agree f P V) (p.run operation) (p.run operation') :=
  (coupled_now hf.toCumulative).bind hf.toCumulative
    (.of_same fun _ => coupled_attempts hf p _ hoperation _ _)

end

/-! ### Calls of a client -/

section

variable {T : List (Entry κ) → List (Entry κ) → Prop} {f : Error → Error} (hf : Overlooks T f)
  {P : σ → Prop} {client client' : Client κ σ} {request : Deployment} {V : Reply → Reply → σ → Prop}
  {W : Except Error Deployment → Except Error Deployment → σ → Prop}

include hf

private theorem coupled_resolve {operation : Operation}
    (hreply : ∀ reply reply', Coupled T (V reply reply') W
      (Client.resolve operation (.ok reply)) (Client.resolve operation (.ok reply')))
    (herror : ∀ e state, P state → W (.error e) (.error (f e)) state)
    (result result' : Except Error Reply) :
    Coupled T (Agree f P V result result') W (Client.resolve operation result)
      (Client.resolve operation result') := by
  rintro scene (hstate | hvalue)
  · exact coupled_pure hf.toCumulative (herror _) scene hstate
  · exact hreply _ _ scene hvalue

/-- What a reply turns out to be is not reworded. -/
private theorem agree_toResult (outcome : Outcome) {state : σ} (h : P state) :
    Agree f P (Same P) outcome.toResult outcome.toResult state := by
  cases outcome with
  | deployment d => exact .ok ⟨rfl, h⟩
  | refused e => exact .error_self (hf.service e) h
  | unclassified d => exact .error_self (hf.unexpected d) h

/-- The same reply is classified alike. -/
theorem coupled_resolve_same (operation : Operation) (reply reply' : Reply) :
    Coupled T (Same P reply reply') (Agree f P (Same P))
      (Client.resolve operation (.ok reply) : Activity κ σ _)
      (Client.resolve operation (.ok reply')) := by
  rintro scene ⟨rfl, hstate⟩
  have hevent : ((classify reply).event operation).endsCall = false := by
    cases classify reply <;> rfl
  exact ⟨agree_toResult hf _ hstate, rfl, hf.logged hevent⟩

/-- **Creations** are coupled if the endpoints are and replies are classified alike. -/
theorem coupled_createDeployment (hpolicy : client'.policy = client.policy)
    (hcreate : Coupled T P (Agree f P V) (client.create request) (client'.create request))
    (hreply : ∀ reply reply', Coupled T (V reply reply') W
      (Client.resolve .create (.ok reply)) (Client.resolve .create (.ok reply')))
    (herror : ∀ e state, P state → W (.error e) (.error (f e)) state) :
    Coupled T P W (client.createDeployment request) (client'.createDeployment request) := by
  have hT := hf.toCumulative
  rw [Client.createDeployment_eq, Client.createDeployment_eq, hpolicy]
  refine (coupled_run hf _ fun number => ?_).bind hT (coupled_resolve hf hreply herror)
  exact (coupled_log hT rfl).bind hT (.of_same fun _ => hcreate)

/-- **Readings** are coupled if the endpoints are and replies are classified alike. -/
theorem coupled_latestDeployment
    (hget : Coupled T P (Agree f P V) (client.get request) (client'.get request))
    (hreply : ∀ reply reply', Coupled T (V reply reply') W
      (Client.resolve .get (.ok reply)) (Client.resolve .get (.ok reply')))
    (herror : ∀ e state, P state → W (.error e) (.error (f e)) state) :
    Coupled T P W (client.latestDeployment request) (client'.latestDeployment request) := by
  have hT := hf.toCumulative
  refine (coupled_isCancelled hT).bind hT (.of_same fun cancelled => ?_)
  cases cancelled with
  | true =>
    refine coupled_pure hT fun state hstate => ?_
    have herror := herror .cancelled state hstate
    rwa [hf.cancelled] at herror
  | false => exact hget.bind hT (coupled_resolve hf hreply herror)

/-- **Calls of two clients** are coupled if their endpoints are and bring the same replies. -/
theorem coupled_perform (hpolicy : client'.policy = client.policy)
    (hcreate : ∀ request,
      Coupled T P (Agree f P (Same P)) (client.create request) (client'.create request))
    (hget : ∀ request, Coupled T P (Agree f P (Same P)) (client.get request) (client'.get request))
    (operation : Operation) (request : Deployment) :
    Coupled T P (Agree f P (Same P)) (client.perform operation request)
      (client'.perform operation request) := by
  cases operation with
  | create =>
    exact coupled_createDeployment hf hpolicy (hcreate request) (coupled_resolve_same hf .create)
      fun _ _ => .error
  | get =>
    exact coupled_latestDeployment hf (hget request) (coupled_resolve_same hf .get)
      fun _ _ => .error

end

/-! ### Layers -/

section

variable {T : List (Entry κ) → List (Entry κ) → Prop} {f : Error → Error} (hf : Overlooks T f)
  {P : World ρ → Prop} {V : Reply → Reply → World ρ → Prop} {inner inner' : Endpoint κ (World ρ)}
  {request : Deployment}

include hf

/-- **A limit layer** keeps endpoints coupled, if what is asked of the state does not depend on the
limiter. -/
theorem coupled_limited (hP : ∀ world limiter, P world → P { world with limiter })
    (h : Coupled T P (Agree f P V) (inner request) (inner' request)) :
    Coupled T P (Agree f P V) (inner.limited request) (inner'.limited request) := by
  have hT := hf.toCumulative
  have hadmission : Coupled T P (Same P) (Endpoint.admission : Activity κ (World ρ) _)
      Endpoint.admission := by
    rintro ⟨now, token, aside, limiter, far⟩ hstate
    cases limiter with
    | none => exact ⟨⟨rfl, hstate⟩, rfl, hT.nil⟩
    | some limiter => exact ⟨⟨rfl, hP _ _ hstate⟩, rfl, hT.nil⟩
  refine hadmission.bind hT (.of_same fun verdict => ?_)
  cases verdict with
  | admitted => exact h
  | rejected wait =>
    exact (coupled_log hT rfl).bind hT (.of_same fun _ =>
      coupled_pure hT fun _ => .error_self (hf.rateLimited wait))

end

/-- A relation between traces **of calls** depends on nothing but the calls that reached the far end. -/
def OfCalls (R : List κ → List κ → Prop) (trace trace' : List (Entry κ)) : Prop :=
  R (trace.filterMap Entry.call?) (trace'.filterMap Entry.call?)

/-- **A trace layer** keeps endpoints coupled, if only calls are compared. -/
theorem coupled_traced {R : List κ → List κ → Prop} {P : σ → Prop}
    {Q : Except Error Reply → Except Error Reply → σ → Prop} {inner inner' : Endpoint κ σ}
    {request : Deployment} (operation : Operation)
    (h : Coupled (OfCalls R) P Q (inner request) (inner' request)) :
    Coupled (OfCalls R) P Q (inner.traced operation request) (inner'.traced operation request) := by
  intro scene hstate
  obtain ⟨hvalue, hscene, hcalls⟩ := h scene hstate
  refine ⟨?_, ?_, ?_⟩
  · simpa only [Endpoint.traced_apply] using hvalue
  · simpa only [Endpoint.traced_apply] using hscene
  · have htraced (inner : Endpoint κ σ) :
        (inner.traced operation request scene).trace.filterMap Entry.call? =
          (inner request scene).trace.filterMap Entry.call? := calls_traced inner operation request scene
    rw [OfCalls, htraced, htraced]
    exact hcalls

end Activity

/-! ### Steps of a session -/

section

variable {client client' : Client κ σ} {T : List (Entry κ) → List (Entry κ) → Prop}

/-- Two results of a step are **related** if they are results of calls that are related, or the same
otherwise. -/
inductive StepResult.Related (W : Except Error Deployment → Except Error Deployment → Prop) :
    StepResult → StepResult → Prop
  | called {x y : Except Error Deployment} (h : W x y) : Related W (.called x) (.called y)
  | slept : Related W .slept .slept
  | cancelled : Related W .cancelled .cancelled

theorem StepResult.Related.eq {W : Except Error Deployment → Except Error Deployment → Prop}
    (hW : ∀ x y, W x y → x = y) {result result' : StepResult} (h : Related W result result') :
    result = result' := by
  cases h with
  | called hxy => rw [hW _ _ hxy]
  | slept => rfl
  | cancelled => rfl

/-- If results of calls are the same, or differ in some way, so are those of steps. -/
theorem StepResult.Related.eq_or {D : Except Error Deployment → Except Error Deployment → Prop}
    {result result' : StepResult} (h : Related (fun x y => y = x ∨ D x y) result result') :
    result' = result ∨ ∃ x y, result = .called x ∧ result' = .called y ∧ D x y := by
  cases h with
  | called hxy => exact hxy.imp (congrArg _) fun hdiffer => ⟨_, _, rfl, rfl, hdiffer⟩
  | slept => exact .inl rfl
  | cancelled => exact .inl rfl

/-- Two reports are **coupled** if they tell of the same time, and of results and traces that are
related. -/
structure Report.Coupled (T : List (Entry κ) → List (Entry κ) → Prop)
    (W : Except Error Deployment → Except Error Deployment → Prop) (report report' : Report κ) :
    Prop where
  result : StepResult.Related W report.result report'.result
  elapsed : report'.elapsed = report.elapsed
  trace : T report.trace report'.trace

/-- **Step.** If the calls of two clients are coupled, then a step of either leaves the session alike,
with reports that are coupled. -/
theorem Session.coupled_step (hT : Cumulative T) {P : σ → Prop}
    {W : Except Error Deployment → Except Error Deployment → σ → Prop} (s : Session σ) (step : Step)
    (hstate : P s.state)
    (h : ∀ call, step = .call call →
      Activity.Coupled T P W (client.perform call.operation call.request)
        (client'.perform call.operation call.request)) :
    (s.step client' step).2 = (s.step client step).2 ∧
      Report.Coupled T (fun x y => W x y (s.step client step).2.state) (s.step client step).1
        (s.step client' step).1 := by
  cases step with
  | call call =>
    obtain ⟨hvalue, hscene, htrace⟩ := h call rfl ⟨s.now, s.tokenFor call, s.shared, s.state⟩ hstate
    simp only [Session.step, hscene]
    exact ⟨trivial, .called hvalue, rfl, htrace⟩
  | sleep duration => exact ⟨rfl, .slept, rfl, hT.nil⟩
  | cancel => exact ⟨rfl, .cancelled, rfl, hT.nil⟩

end

end Deployer
