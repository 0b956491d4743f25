import Deployer.Proofs.Retry.Course
import Deployer.Script

/-!
# Creating as polling

A creation is retried by a policy and its reply is classified at the end. Reading the latest state is
a single attempt that is classified at once. Apart from that the two do the same: if the endpoints
behave alike, a creation goes as if the latest state were read, again after each interval, until the
outcome is conclusive or the readings number as many as the policy allows attempts
(`createDeployment_eq_poll`). In particular an outcome that comes of the classification is never a
reason for another attempt, and a rejection by the limiter plays no turn of the script.

The two runs are in different states, since each moves its own script on. `Mirrors` says in what they
agree. It is kept by whatever the two have in common: by the endpoints behind their layers
(`alike_wrap`), and by the waits as long as the token outlasts them, for a wait that is cut short has
no counterpart in a reading.
-/

namespace Deployer

open Activity

variable {κ σ α β γ δ : Type}

/-! ### Polling -/

/-- Reads the latest state of a deployment until the outcome is conclusive, but only so many more times
than once, and sleeps for the interval of the policy in between. -/
def Client.poll (client : Client κ σ) (request : Deployment) :
    (left : Nat) → Activity κ σ (Except Error Deployment)
  | 0 => client.latestDeployment request
  | left + 1 => do
    let outcome ← client.latestDeployment request
    if Policy.conclusive outcome then return outcome
    sleep client.policy.interval
    client.poll request left

/-- The outcome of a retried run whose last attempt has an outcome: what might be repeated is not any
more. -/
def Policy.exhausting (p : Policy) : Except Error α → Except Error α
  | .ok a => .ok a
  | .error e => if e.isRetryable then .error (.exhausted p.maxAttempts e) else .error e

theorem Policy.exhausting_of_conclusive {p : Policy} {outcome : Except Error α}
    (h : conclusive outcome = true) : p.exhausting outcome = outcome := by
  cases outcome with
  | ok a => rfl
  | error e =>
    rw [conclusive, Bool.not_eq_true'] at h
    simp [exhausting, h]

namespace Client

variable {client : Client κ σ} {request : Deployment} {scene : Scene σ} {left : Nat}

/-- No reply that was decoded is a reason for another attempt. -/
private theorem conclusive_toResult (outcome : Outcome) :
    Policy.conclusive outcome.toResult = true := by
  cases outcome <;> rfl

theorem conclusive_resolved (result : Except Error Reply) :
    Policy.conclusive (resolved result) = Policy.conclusive result := by
  cases result with
  | ok reply => exact conclusive_toResult _
  | error e => rfl

/-- Polling ends with a conclusive outcome. -/
private theorem poll_of_conclusive
    (h : Policy.conclusive (client.latestDeployment request scene).value = true) :
    client.poll request left scene = client.latestDeployment request scene := by
  cases left with
  | zero => rfl
  | succ left => simp [poll, h]

/-- After any other outcome it goes on, an interval later. -/
private theorem poll_of_inconclusive
    (h : Policy.conclusive (client.latestDeployment request scene).value = false) :
    client.poll request (left + 1) scene =
      (client.poll request left
        ((client.latestDeployment request scene).scene.later client.policy.interval)).after
          (client.latestDeployment request scene).trace := by
  simp [poll, h, Ran.after]

end Client

/-! ### Scenes that mirror each other -/

/-- Two scenes **mirror** each other if one has been left by invocations of one operation and the other
by as many of the other, and they agree in all but that. -/
inductive Mirrors (start : Positions) : Scene (World Positions) → Scene (World Positions) → Prop
  | intro (now : Duration) (token aside : Token) (limiter : Option Limiter) (n : Nat) :
    Mirrors start ⟨now, token, aside, ⟨limiter, ⟨start.create + n, start.get⟩⟩⟩
      ⟨now, token, aside, ⟨limiter, ⟨start.create, start.get + n⟩⟩⟩

/-- The call of the other operation that a creation mirrors. -/
def Invocation.reading (call : Invocation) : Invocation := { call with operation := .get }

/-- Two endings are **alike** if they leave scenes that mirror each other, after the same calls. -/
structure Alike (start : Positions) (r : Ran Invocation (World Positions) α)
    (r' : Ran Invocation (World Positions) β) : Prop where
  scene : Mirrors start r.scene r'.scene
  calls : r'.calls = r.calls.map Invocation.reading

section

variable {start : Positions} {s t : Scene (World Positions)} {create get : Script}
  {request : Deployment} {layers : List Layer} {policy : Policy}

/-- Scenes that mirror each other have the same clock and the same limiter, and the scripts are on by
the same number of turns. -/
theorem Mirrors.agree (h : Mirrors start s t) :
    ∃ n, t.now = s.now ∧ t.state.limiter = s.state.limiter ∧
      s.state.far = { start with create := start.create + n } ∧
      t.state.far = { start with get := start.get + n } := by
  obtain ⟨now, token, aside, limiter, n⟩ := h
  exact ⟨n, rfl, rfl, rfl, rfl⟩

theorem Mirrors.token_eq (h : Mirrors start s t) : s.token = t.token := by
  cases h
  rfl

theorem Mirrors.later (h : Mirrors start s t) (d : Duration) :
    Mirrors start (s.later d) (t.later d) := by
  cases h
  exact .intro _ _ _ _ _

theorem Mirrors.ending (h : Mirrors start s t) (turn : Turn) :
    Mirrors start (turn.ending s) (turn.ending t) := by
  cases h
  unfold Turn.ending
  split <;> exact .intro _ _ _ _ _

/-- What is alike may come after what is alike. -/
theorem Alike.after {first : Ran Invocation (World Positions) α}
    {first' : Ran Invocation (World Positions) β} {r : Ran Invocation (World Positions) γ}
    {r' : Ran Invocation (World Positions) δ} (hfirst : Alike start first first')
    (h : Alike start r r') : Alike start (r.after first.trace) (r'.after first'.trace) where
  scene := h.scene
  calls := by
    rw [Ran.calls_after, Ran.calls_after, h.calls, List.map_append]
    exact congrArg (· ++ _) hfirst.calls

/-- Scripts that go on alike answer alike. -/
private theorem alike_endpoint (hscript : ∀ n, create (start.create + n) = get (start.get + n))
    (h : Mirrors start s t) :
    (create.endpoint .create request s).value = (get.endpoint .get request t).value ∧
      Alike start (create.endpoint .create request s) (get.endpoint .get request t) := by
  obtain ⟨now, token, aside, limiter, n⟩ := h
  rw [Script.endpoint_apply, Script.endpoint_apply]
  have hturn : get (start.get + n) = create (start.create + n) := (hscript n).symm
  have hscene : Mirrors start
      ⟨now, token, aside, ⟨limiter, ⟨start.create + n + 1, start.get⟩⟩⟩
      ⟨now, token, aside, ⟨limiter, ⟨start.create, start.get + n + 1⟩⟩⟩ :=
    .intro now token aside limiter (n + 1)
  refine ⟨congrArg Turn.answer hturn.symm, ?_, rfl⟩
  have hending := hscene.ending (create (start.create + n))
  simpa only [Positions.count, Positions.advance, hturn] using hending

/-- Behind the same layers they still do. -/
theorem alike_wrap (hscript : ∀ n, create (start.create + n) = get (start.get + n))
    (h : Mirrors start s t) :
    (Layer.wrap .create layers (create.endpoint .create) request s).value =
        (Layer.wrap .get layers (get.endpoint .get) request t).value ∧
      Alike start (Layer.wrap .create layers (create.endpoint .create) request s)
        (Layer.wrap .get layers (get.endpoint .get) request t) := by
  induction layers generalizing s t with
  | nil => exact alike_endpoint hscript h
  | cons layer layers ih =>
    cases layer with
    | limit =>
      -- both find the same limiter at the same instant, so it lets both pass or turns both away
      rw [Layer.wrap_limit, Layer.wrap_limit]
      obtain ⟨now, token, aside, limiter, n⟩ := h
      cases limiter with
      | none =>
        rw [Endpoint.limited_of_none rfl, Endpoint.limited_of_none rfl]
        exact ih (.intro _ _ _ _ _)
      | some limiter =>
        rcases limiter.ask_cases now with ⟨wait, hrejected⟩ | ⟨-, hadmitted⟩
        · rw [Endpoint.limited_of_rejected rfl hrejected, Endpoint.limited_of_rejected rfl hrejected]
          exact ⟨rfl, .intro _ _ _ _ _, rfl⟩
        · have hask : limiter.ask now = (.admitted, (limiter.ask now).2) :=
            Prod.ext hadmitted rfl
          rw [Endpoint.limited_of_admitted rfl hask, Endpoint.limited_of_admitted rfl hask]
          exact ih (.intro _ _ _ _ _)
    | trace =>
      -- the traces differ, but not in the calls
      obtain ⟨hvalue, halike⟩ := ih h
      refine ⟨?_, ?_, ?_⟩
      · simpa only [Layer.wrap_trace, Endpoint.traced_apply] using hvalue
      · simpa only [Layer.wrap_trace, Endpoint.traced_apply] using halike.scene
      · simpa only [Layer.wrap_trace, calls_traced] using halike.calls

/-! ### The two runs -/

/-- Attempts begin only under a token that is not cancelled, if it is not by the end. -/
theorem Policy.not_cancelled_of_attempts {operation : Nat → Activity κ σ (Except Error α)}
    {started : Duration} {left number : Nat} {scene : Scene σ}
    (h : (policy.attempts started operation left number scene).scene.token.isCancelled = false) :
    scene.token.isCancelled = false := by
  obtain ⟨next, hnext⟩ := policy.attempts_eq_attempt started operation left number
  cases htoken : scene.token.isCancelled with
  | false => rfl
  | true =>
    rw [hnext, attempt_of_cancelled htoken, htoken] at h
    exact h

section

variable (layers policy request)

/-- An attempt to create and a reading are alike. -/
private theorem alike_creating (hscript : ∀ n, create (start.create + n) = get (start.get + n))
    (h : Mirrors start s t) (hbegins : s.token.isCancelled = false) (number : Nat) :
    let client := Script.client create get layers policy
    (client.latestDeployment request t).value =
        Client.resolved (client.creating request number s).value ∧
      Alike start (client.creating request number s) (client.latestDeployment request t) := by
  intro client
  obtain ⟨hvalue, hscene, hcalls⟩ : (client.create request s).value =
      (client.get request t).value ∧ Alike start (client.create request s) (client.get request t) :=
    alike_wrap hscript h
  rw [h.token_eq] at hbegins
  obtain ⟨hread, hreadScene, hreadCalls⟩ :
      (client.latestDeployment request t).value = Client.resolved (client.get request t).value ∧
        (client.latestDeployment request t).scene = (client.get request t).scene ∧
        (client.latestDeployment request t).calls = (client.get request t).calls :=
    Client.latestDeployment_eq hbegins
  refine ⟨?_, ?_, ?_⟩
  · rw [hread, Client.creating_apply, ← hvalue]
  · rw [hreadScene]
    exact hscene
  · rw [hreadCalls, hcalls]
    rfl

/-- Where an attempt is conclusive, the attempts end, and so does the polling. -/
private theorem alike_of_conclusive (hscript : ∀ n, create (start.create + n) = get (start.get + n))
    (h : Mirrors start s t) (hbegins : s.token.isCancelled = false) (started : Duration)
    (left number : Nat) :
    let client := Script.client create get layers policy
    let r := policy.attempts started (client.creating request) left number s
    Policy.conclusive (client.creating request number s).value = true →
      Client.resolved r.value = policy.exhausting (client.poll request left t).value ∧
        Alike start r (client.poll request left t) := by
  intro client r hlast
  obtain ⟨hvalue, halike⟩ := alike_creating request layers policy hscript h hbegins number
  obtain ⟨next, hnext⟩ := policy.attempts_eq_attempt started (client.creating request) left number
  have hr : r = client.creating request number s :=
    (congrFun hnext s).trans (Policy.attempt_of_conclusive hbegins hlast)
  have hend : Policy.conclusive (client.latestDeployment request t).value = true := by
    rw [hvalue, Client.conclusive_resolved, hlast]
  rw [hr, Client.poll_of_conclusive hend, Policy.exhausting_of_conclusive hend]
  exact ⟨hvalue.symm, halike⟩

/-- **Attempts and readings go alike**, if the token is not cancelled by the end. -/
theorem alike_attempts (hscript : ∀ n, create (start.create + n) = get (start.get + n))
    (started : Duration) (left number : Nat) (hnumber : number + left = policy.maxAttempts)
    (h : Mirrors start s t) :
    let client := Script.client create get layers policy
    let r := policy.attempts started (client.creating request) left number s
    r.scene.token.isCancelled = false →
      Client.resolved r.value = policy.exhausting (client.poll request left t).value ∧
        Alike start r (client.poll request left t) := by
  intro client
  induction left generalizing number s t with
  | zero =>
    intro r hlive
    have hbegins := Policy.not_cancelled_of_attempts hlive
    cases hlast : Policy.conclusive (client.creating request number s).value with
    | true => exact alike_of_conclusive request layers policy hscript h hbegins _ _ _ hlast
    | false =>
      obtain ⟨hvalue, halike⟩ := alike_creating request layers policy hscript h hbegins number
      obtain ⟨e, he, hagain⟩ := Policy.eq_error_of_not_conclusive hlast
      have hr : r = (Policy.giveUp started number e (client.creating request number s).scene).after
          (client.creating request number s).trace :=
        Policy.attempt_of_retryable hbegins he hagain
      have hread : (client.latestDeployment request t).value = .error e := by
        rw [hvalue, he, Client.resolved]
      rw [hr, Client.poll]
      refine ⟨?_, halike.scene, ?_⟩
      · rw [hread, Policy.exhausting, if_pos hagain, ← hnumber]
        rfl
      · rw [Ran.calls_after, halike.calls]
        exact congrArg (List.map Invocation.reading) (List.append_nil _).symm
  | succ left ih =>
    intro r hlive
    have hbegins := Policy.not_cancelled_of_attempts hlive
    cases hlast : Policy.conclusive (client.creating request number s).value with
    | true => exact alike_of_conclusive request layers policy hscript h hbegins _ _ _ hlast
    | false =>
      obtain ⟨hvalue, halike⟩ := alike_creating request layers policy hscript h hbegins number
      obtain ⟨e, he, hagain⟩ := Policy.eq_error_of_not_conclusive hlast
      have hread : Policy.conclusive (client.latestDeployment request t).value = false := by
        rw [hvalue, Client.conclusive_resolved, hlast]
      have hr : r = (policy.await number e
          (policy.attempts started (client.creating request) left (number + 1))
            (client.creating request number s).scene).after
              (client.creating request number s).trace :=
        Policy.attempt_of_retryable hbegins he hagain
      rw [hr] at hlive ⊢
      rw [Client.poll_of_inconclusive hread]
      -- a wait that is cut short would leave the token cancelled
      have hwaits : (client.creating request number s).scene.token.Outlasts
          ((client.creating request number s).scene.now + policy.interval.awaited) := by
        by_contra hcut
        obtain ⟨aside, hpause⟩ := pause_of_not_outlasts (κ := Invocation) hcut
        rw [Policy.await_of_cut hpause] at hlive
        cases hlive
      rw [Policy.await_of_waited (pause_of_outlasts hwaits)] at hlive ⊢
      obtain ⟨hfinal, hscene, hcalls⟩ := ih (number + 1) (by lia)
        (halike.scene.later policy.interval) hlive
      exact ⟨hfinal, halike.after ⟨hscene, hcalls⟩⟩

end

end

/-- **Creating is polling.** In any state of a client whose two scripts go on alike behind the same
layers, under a policy that allows an attempt, let a creation end with its token not cancelled. Reading
the latest state instead, again after each interval as long as the outcome may be repeated, but as
often as the policy allows attempts at most, reaches the service at the same instants with the same
request, takes the same time, and leaves the limiter the same and the other script as far on. The
creation has the outcome of the last reading, except that a failure that might be repeated is reported
as exhausted. -/
theorem createDeployment_eq_poll (create get : Script) (layers : List Layer) (policy : Policy)
    (request : Deployment) (scene : Scene (World Positions)) (hattempts : 1 ≤ policy.maxAttempts)
    (hscript : ∀ n, create (scene.state.far.create + n) = get (scene.state.far.get + n)) :
    let client := Script.client create get layers policy
    let created := client.createDeployment request scene
    let polled := client.poll request (policy.maxAttempts - 1) scene
    created.scene.token.isCancelled = false →
      created.value = policy.exhausting polled.value ∧
      polled.calls = created.calls.map Invocation.reading ∧
      polled.scene.now = created.scene.now ∧
      polled.scene.state.limiter = created.scene.state.limiter ∧
      ∃ n, created.scene.state.far =
          { scene.state.far with create := scene.state.far.create + n } ∧
        polled.scene.state.far = { scene.state.far with get := scene.state.far.get + n } := by
  intro client created polled hlive
  have hstart : Mirrors scene.state.far scene scene :=
    .intro scene.now scene.token scene.aside scene.state.limiter 0
  obtain ⟨hvalue, hscene, hcalls⟩ := client.createDeployment_eq_run request scene
  rw [hscene] at hlive
  obtain ⟨houtcome, hmirrors, hreadings⟩ := alike_attempts request layers policy hscript scene.now
    (policy.maxAttempts - 1) 1 (Nat.add_sub_of_le hattempts) hstart hlive
  refine ⟨hvalue.trans houtcome, hreadings.trans (by rw [hcalls]; rfl), ?_⟩
  rw [hscene, Policy.run_apply]
  obtain ⟨n, hnow, hlimiter, hcreated, hpolled⟩ := hmirrors.agree
  exact ⟨hnow, hlimiter, n, hcreated, hpolled⟩

/-- Four attempts against a quota of one in 100 ms: a timeout, a rejection, a reply that cannot be
decoded, and another rejection. The creation is one turn into its script, which goes on as the other
does from its start. -/
theorem createDeployment_eq_poll_rejected :
    let get : Script := .ofList ⟨.ofMillis 10, false, .error (.transport .timeout)⟩
      [⟨0, false, .error (.transport (.decode "eof"))⟩]
    let create : Script := fun i => get (i - 1)
    let policy : Policy := ⟨.ofMillis 50, 4⟩
    let request : Deployment := .plain "d" "new"
    let q : Quota := ⟨.ofMillis 100, 1, by decide, by decide⟩
    let scene : Scene (World Positions) :=
      ⟨0, .due (.ofSecs 1), .live, ⟨some (.fresh q), ⟨1, 0⟩⟩⟩
    let client := create.client get [.trace, .limit] policy
    let created := client.createDeployment request scene
    let polled := client.poll request (policy.maxAttempts - 1) scene
    1 ≤ policy.maxAttempts ∧
      (∀ n, create (scene.state.far.create + n) = get (scene.state.far.get + n)) ∧
      created.scene.token.isCancelled = false ∧
      polled.value = .error (.rateLimited (.ofMillis 50)) ∧
      created.value = .error (.exhausted 4 (.rateLimited (.ofMillis 50))) ∧
      polled.calls = [⟨.get, 0, "d"⟩, ⟨.get, Duration.ofMillis 110, "d"⟩] ∧
      polled.scene.now = created.scene.now := by
  have hindex (n : Nat) : 1 + n - 1 = 0 + n := by lia
  refine ⟨by decide, fun n => congrArg _ (hindex n), by decide, rfl, ?_, by decide, by decide⟩
  refine (createDeployment_eq_poll _ _ _ _ _ _ ?_ ?_ ?_).1
  · decide
  · exact fun n => congrArg _ (hindex n)
  · decide

end Deployer
