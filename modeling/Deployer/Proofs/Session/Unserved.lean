import Deployer.Proofs.Activity.Timely
import Deployer.Proofs.Retry.Course
import Deployer.Proofs.Session.Admission
import Mathlib.Algebra.GroupWithZero.Nat

/-!
# Calls that reach no endpoint

A call may come to nothing: it is cancelled before it starts, the limiter rejects each of its
attempts, or it is cancelled in a wait after a rejection. If each endpoint lies behind exactly one
limit layer, such a call leaves no trace in the state: the limiter and the scripts stay as they were,
and only time passes (`Lapses`).

So the call may be replaced by sleeps that together last as long, and the rest of the session does not
notice (`run_eq_of_unserved`). There are two things to mind (`sleep_differs_from_unserved`). A single
sleep cannot last longer than `Duration.longestWait`, whereas the waits of a call can add up to more.
And a wait that is cut short cancels everything that is due at that instant, the shared token too,
whereas the end of a sleep comes before what is due just then.
-/

namespace Deployer

open Activity

variable {κ σ ρ α : Type}

/-! ### Behind a single limit layer -/

/-- An endpoint **reaches out** if each of its invocations reaches the far end. -/
def Endpoint.ReachesOut (endpoint : Endpoint κ σ) : Prop :=
  ∀ request scene, (endpoint request scene).calls ≠ []

theorem Script.reachesOut_endpoint (script : Script) (operation : Operation) :
    (script.endpoint operation).ReachesOut := by
  intro request scene
  rw [Script.endpoint_apply]
  simp [Ran.calls]

section

variable {inner : Endpoint κ (World ρ)} {request : Deployment} {scene : Scene (World ρ)}
  {operation : Operation} {layers : List Layer}

/-- Only a limit layer keeps a call from reaching the far end. -/
private theorem reachesOut_wrap (h : inner.ReachesOut) (hlayers : .limit ∉ layers) :
    (Layer.wrap operation layers inner).ReachesOut := by
  induction layers with
  | nil => exact h
  | cons layer layers ih =>
    rw [List.mem_cons, not_or] at hlayers
    cases layer with
    | limit => exact absurd rfl hlayers.1
    | trace =>
      intro request scene
      rw [Layer.wrap_trace, calls_traced]
      exact ih hlayers.2 request scene

/-- **An invocation that reaches nothing was rejected**, and has changed nothing at all. -/
theorem wrap_of_unserved (h : inner.ReachesOut) (hlayers : layers.count .limit = 1)
    (hcalls : (Layer.wrap operation layers inner request scene).calls = []) :
    ∃ wait, (Layer.wrap operation layers inner request scene).value = .error (.rateLimited wait) ∧
      (Layer.wrap operation layers inner request scene).scene = scene := by
  induction layers with
  | nil => cases hlayers
  | cons layer layers ih =>
    cases layer with
    | limit =>
      have hothers : .limit ∉ layers := by
        rw [List.count_cons_self, Nat.add_eq_right] at hlayers
        exact List.count_eq_zero.mp hlayers
      rw [Layer.wrap_limit] at hcalls ⊢
      rcases Endpoint.limited_cases (Layer.wrap operation layers inner) request scene with
        ⟨wait, hrejected⟩ | ⟨limiter, hadmitted⟩
      · rw [hrejected]
        exact ⟨wait, rfl, rfl⟩
      · -- an admitted call would reach out: no other layer can reject it
        rw [hadmitted] at hcalls
        exact absurd hcalls (reachesOut_wrap h hothers _ _)
    | trace =>
      have hothers : layers.count .limit = 1 := by
        rwa [List.count_cons_of_ne (by decide)] at hlayers
      rw [Layer.wrap_trace, calls_traced] at hcalls
      rw [Layer.wrap_trace, Endpoint.traced_apply]
      exact ih hothers hcalls

end

/-! ### Activities that come to nothing -/

/-- An activity that comes to nothing **lapses**: it leaves the state as it was, and what lies aside
has gone on with the clock. Only if a wait was cut short has what was due at that very instant been
cancelled too. -/
structure Lapses (scene : Scene σ) (r : Ran κ σ (Except Error α)) : Prop where
  state : r.scene.state = scene.state
  now_le : scene.now ≤ r.scene.now
  aside : r.scene.aside = scene.aside.settled r.scene.now ∨
    .logged .cancelledWaiting none ∈ r.trace ∧ r.scene.aside = scene.aside.struck r.scene.now
  failed : ∃ e, r.value = .error e ∧ (e = .cancelled ∨ ∃ wait, e.lastError = .rateLimited wait)

variable {scene : Scene σ}

/-- What ends where it begins lapses, if it fails in the right way. -/
private theorem lapses_of_scene_eq {r : Ran κ σ (Except Error α)}
    (haside : scene.aside.OnTime scene.now)
    (hscene : r.scene = scene) {e : Error} (he : r.value = .error e)
    (hfailed : e = .cancelled ∨ ∃ wait, e.lastError = .rateLimited wait) : Lapses scene r where
  state := by rw [hscene]
  now_le := Nat.le_of_eq (by rw [hscene])
  aside := .inl (by rw [hscene]; exact haside.symm)
  failed := ⟨e, he, hfailed⟩

/-- What lapses may be part of a longer trace. -/
theorem Lapses.after {r : Ran κ σ (Except Error α)} (h : Lapses scene r) (past : List (Entry κ)) :
    Lapses scene (r.after past) where
  state := h.state
  now_le := h.now_le
  aside := h.aside.imp_right fun ⟨hcut, haside⟩ => ⟨List.mem_append_right _ hcut, haside⟩
  failed := h.failed

/-- A time in which nothing happens may come first. -/
theorem Lapses.of_later {d : Duration} {r : Ran κ σ (Except Error α)}
    (h : Lapses (scene.later d) r) : Lapses scene r where
  state := h.state
  now_le := Nat.le_trans (scene.le_now_later d) h.now_le
  aside := h.aside.imp (fun haside => haside.trans (Token.settled_settled h.now_le))
    fun ⟨hcut, haside⟩ => ⟨hcut, haside.trans (Token.struck_settled h.now_le)⟩
  failed := h.failed

section

variable {p : Policy} {number : Nat} {next : Activity κ σ (Except Error α)}

/-- A wait that is cut short lapses, and so does one that is not, if what follows it does. -/
private theorem lapses_await {e : Error} (htoken : scene.token.isCancelled = false)
    (hcalls : (p.await number e next scene).calls = [])
    (hnext : ∀ later : Scene σ, later.aside.OnTime later.now → (next later).calls = [] →
      Lapses later (next later)) : Lapses scene (p.await number e next scene) := by
  -- a wait that is not cut short leaves all to what follows it
  have hwaited (h : (pause p.interval : Activity κ σ Bool) scene =
      ⟨false, scene.later p.interval, []⟩) : Lapses scene (p.await number e next scene) := by
    rw [Policy.await_of_waited h] at hcalls ⊢
    have hlapses := hnext _ (scene.onTime_later p.interval).aside hcalls
    exact hlapses.of_later.after [_]
  cases hdue : scene.token with
  | live => exact hwaited (pause_of_live _ _ hdue)
  | due instant =>
    by_cases hcut : instant < scene.now + p.interval.awaited
    · have hpause : (pause p.interval : Activity κ σ Bool) scene =
          ⟨true, ⟨max scene.now instant, .cancelled, scene.aside.struck (max scene.now instant),
            scene.state⟩, []⟩ := by
        rw [pause, hdue]
        exact if_pos hcut
      rw [Policy.await_of_cut hpause]
      exact {
        state := rfl
        now_le := Nat.le_max_left _ _
        aside := .inr ⟨by simp, rfl⟩
        failed := ⟨_, rfl, .inl rfl⟩ }
    · refine hwaited (pause_of_outlasts ?_)
      rw [hdue]
      exact Nat.le_of_not_lt hcut
  | cancelled =>
    rw [hdue] at htoken
    cases htoken

end

section

/-- An operation **comes to nothing quietly**: if an invocation reaches nothing, it was rejected, and
has changed nothing. -/
def RejectsQuietly (operation : Activity κ σ (Except Error α)) : Prop :=
  ∀ scene, (operation scene).calls = [] →
    ∃ wait, (operation scene).value = .error (.rateLimited wait) ∧ (operation scene).scene = scene

variable {p : Policy}

private theorem lapses_attempt {number : Nat} {operation : Activity κ σ (Except Error α)}
    {next : Error → Activity κ σ (Except Error α)} (hoperation : RejectsQuietly operation)
    (haside : scene.aside.OnTime scene.now)
    (hcalls : (Policy.attempt number operation next scene).calls = [])
    (hnext : ∀ wait, scene.token.isCancelled = false →
      (next (.rateLimited wait) scene).calls = [] → Lapses scene (next (.rateLimited wait) scene)) :
    Lapses scene (Policy.attempt number operation next scene) := by
  cases htoken : scene.token.isCancelled with
  | true =>
    rw [Policy.attempt_of_cancelled htoken]
    exact lapses_of_scene_eq haside rfl rfl (.inl rfl)
  | false =>
    -- the operation's own calls are among those of the attempt, so it made none either
    have hnone : (operation scene).calls = [] := by
      obtain ⟨more, htrace⟩ : ∃ more, (Policy.attempt number operation next scene).trace =
          (operation scene).trace ++ more := Policy.attempt_trace htoken
      rw [Ran.calls, htrace, List.filterMap_append] at hcalls
      exact (List.append_eq_nil_iff.mp hcalls).1
    obtain ⟨wait, hvalue, hscene⟩ := hoperation scene hnone
    rw [Policy.attempt_of_retryable htoken hvalue rfl, hscene] at hcalls ⊢
    rw [Ran.calls, List.filterMap_append] at hcalls
    exact (hnext wait htoken (List.append_eq_nil_iff.mp hcalls).2).after _

/-- Attempts that reach nothing lapse. -/
private theorem lapses_attempts (p : Policy) (started : Duration)
    {operation : Nat → Activity κ σ (Except Error α)}
    (hoperation : ∀ number, RejectsQuietly (operation number)) (left number : Nat)
    (scene : Scene σ) (haside : scene.aside.OnTime scene.now)
    (hcalls : (p.attempts started operation left number scene).calls = []) :
    Lapses scene (p.attempts started operation left number scene) := by
  induction left generalizing number scene with
  | zero =>
    refine lapses_attempt (hoperation number) haside hcalls fun wait _ _ => ?_
    rw [Policy.giveUp_apply]
    exact lapses_of_scene_eq haside rfl rfl (.inr ⟨wait, rfl⟩)
  | succ left ih =>
    refine lapses_attempt (hoperation number) haside hcalls fun wait htoken hnone => ?_
    exact lapses_await htoken hnone fun later hlater hrest => ih (number + 1) later hlater hrest

end

/-! ### Calls of a client that come to nothing -/

/-- A result that is an error is passed on as it is. -/
private theorem lapses_resolve {first : Activity κ σ (Except Error Reply)} {operation : Operation}
    (h : Lapses scene (first scene)) :
    Lapses scene ((first >>= Client.resolve operation) scene) := by
  obtain ⟨e, he, hfailed⟩ := h.failed
  rw [bind_apply, he, Client.resolve_error, List.append_nil]
  exact ⟨h.state, h.now_le, h.aside, e, rfl, hfailed⟩

/-- **A call that reaches nothing lapses**, if an invocation of an endpoint that reaches nothing
changes nothing. -/
theorem lapses_perform {client : Client κ σ} {operation : Operation} {request : Deployment}
    (hcreate : RejectsQuietly (client.create request)) (hget : RejectsQuietly (client.get request))
    (haside : scene.aside.OnTime scene.now)
    (hcalls : (client.perform operation request scene).calls = []) :
    Lapses scene (client.perform operation request scene) := by
  cases operation with
  | create =>
    rw [Client.perform, (client.createDeployment_eq_run request scene).2.2] at hcalls
    refine lapses_resolve ?_
    rw [Policy.run_apply] at hcalls ⊢
    refine lapses_attempts client.policy _ (fun number scene hnone => ?_) _ _ scene haside hcalls
    exact hcreate scene hnone
  | get =>
    rw [Client.perform] at hcalls ⊢
    cases htoken : scene.token.isCancelled with
    | true =>
      rw [Client.latestDeployment_of_cancelled htoken]
      exact lapses_of_scene_eq haside rfl rfl (.inl rfl)
    | false =>
      rw [Client.latestDeployment_of_not_cancelled htoken, calls_bind] at hcalls
      obtain ⟨wait, hvalue, hscene⟩ := hget scene (List.append_eq_nil_iff.mp hcalls).1
      rw [Client.latestDeployment_of_not_cancelled htoken]
      exact lapses_resolve (lapses_of_scene_eq haside hscene hvalue (.inr ⟨wait, rfl⟩))

/-! ### Sessions -/

namespace Session

variable {client : Client κ σ}

/-- The session after a time in which nothing happens but what is due. -/
def idle (s : Session σ) (d : Duration) : Session σ :=
  { s with now := s.now + d, shared := s.shared.settled (s.now + d) }

theorem idle_zero {s : Session σ} (h : s.OnTime) : s.idle 0 = s := by
  have hshared : s.shared.settled s.now = s.shared := h
  simp [idle, hshared]

/-- Two times of idleness are one. -/
private theorem idle_idle (s : Session σ) (d e : Duration) :
    (s.idle d).idle e = s.idle (d + e) := by
  have hle : s.now + d ≤ s.now + (d + e) := Nat.add_le_add_left (Nat.le_add_right d e) s.now
  simp only [idle, Nat.add_assoc, Token.settled_settled hle]

/-- A sleep is idleness for as long as it lasts. -/
private theorem step_sleep (s : Session σ) (d : Duration) :
    s.step client (.sleep d) = (⟨.slept, d.awaited, []⟩, s.idle d.awaited) := rfl

/-- Sleeps let time pass, and nothing else happens. -/
theorem run_sleeps {s : Session σ} (h : s.OnTime) (sleeps : List Duration) :
    s.run client (sleeps.map .sleep) =
      (sleeps.map fun d => ⟨.slept, d.awaited, []⟩, s.idle (sleeps.map Duration.awaited).sum) := by
  induction sleeps generalizing s with
  | nil => exact congrArg _ (idle_zero h).symm
  | cons d sleeps ih =>
    have hnext : (s.idle d.awaited).OnTime := Token.onTime_settled
    rw [List.map_cons, run_cons, step_sleep, ih hnext, idle_idle]
    rfl

/-- A call that lapses leaves the state as it was, and takes its time. -/
private theorem state_step_of_lapses {s : Session σ} {call : Call}
    (h : Lapses (s.sceneFor call) (client.perform call.operation call.request (s.sceneFor call))) :
    (s.step client (.call call)).2.state = s.state ∧
      (s.step client (.call call)).2.now = s.now + (s.step client (.call call)).1.elapsed :=
  ⟨h.state, (Nat.add_sub_of_le h.now_le).symm⟩

/-- A fresh call that lapses leaves the session as sleeps would that last as long, unless a wait of
the call was cut short at the very instant at which the shared token is due. -/
theorem step_eq_idle {s : Session σ} {call : Call} (hfresh : call.shared = false)
    (h : Lapses (s.sceneFor call) (client.perform call.operation call.request (s.sceneFor call)))
    (hdue : .logged .cancelledWaiting none ∈ (s.step client (.call call)).1.trace →
      s.shared ≠ .due (s.step client (.call call)).2.now) :
    (s.step client (.call call)).2 = s.idle (s.step client (.call call)).1.elapsed := by
  obtain ⟨hstate, hnow⟩ := state_step_of_lapses h
  have hshared : (s.step client (.call call)).2.shared =
      s.shared.settled (s.step client (.call call)).2.now := by
    rw [Session.step, hfresh]
    rcases h.aside with haside | ⟨hcut, haside⟩
    · exact haside
    · -- the wait was cut short, so the shared token is not due at this instant
      exact haside.trans (Token.struck_eq_settled (hdue hcut))
  calc (s.step client (.call call)).2
      = ⟨(s.step client (.call call)).2.now, (s.step client (.call call)).2.shared,
          (s.step client (.call call)).2.state⟩ := rfl
    _ = s.idle (s.step client (.call call)).1.elapsed := by rw [hshared, hstate, hnow, idle]

end Session

/-! ### Scripted clients -/

section

variable (create get : Script) (createLayers getLayers : List Layer) (policy : Policy)

/-- The calls of a scripted client are timely. -/
theorem Script.timely_perform (operation : Operation) (request : Deployment) :
    ((Script.layered create get createLayers getLayers policy).perform operation request).Timely :=
  timely_compositional.perform
    (fun request => timely_wrap .create createLayers (create.timely_endpoint .create request))
    (fun request => timely_wrap .get getLayers (get.timely_endpoint .get request)) operation request

/-- **Calls that reach no endpoint leave no trace.** Each endpoint of a client lies behind exactly one
limit layer, the client has taken any steps, and then makes a call under a fresh token that reaches
neither script. The call fails, cancelled or turned away by the limiter; the limiter and the positions
of the scripts are as they were, and only time has passed. If sleeps that together last as long stand
in its place, every other step of the session has the same report, and the session ends alike. This
holds unless a wait of the call is cut short at the very instant at which the shared token is due. -/
theorem run_eq_of_unserved (q : Quota) (hcreate : createLayers.count .limit = 1)
    (hget : getLayers.count .limit = 1) (before : List Step) (call : Call)
    (hfresh : call.shared = false) :
    let client := Script.layered create get createLayers getLayers policy
    let s := ((Session.metered q).run client before).2
    let report := (s.step client (.call call)).1
    let next := (s.step client (.call call)).2
    report.calls = [] →
      next.state = s.state ∧ next.now = s.now + report.elapsed ∧
      (∃ e, report.result = .called (.error e) ∧
        (e = .cancelled ∨ ∃ wait, e.lastError = .rateLimited wait)) ∧
      ((.logged .cancelledWaiting none ∈ report.trace → s.shared ≠ .due next.now) →
        ∀ (sleeps : List Duration) (after : List Step),
          (sleeps.map Duration.awaited).sum = report.elapsed →
          (Session.metered q).run client (before ++ .call call :: after) =
            (((Session.metered q).run client before).1 ++ report :: (next.run client after).1,
              (next.run client after).2) ∧
          (Session.metered q).run client (before ++ sleeps.map .sleep ++ after) =
            (((Session.metered q).run client before).1 ++
              (sleeps.map fun d => ⟨.slept, d.awaited, []⟩) ++ (next.run client after).1,
              (next.run client after).2)) := by
  intro client s report next hcalls
  -- whatever the steps before were, what is due by now has been cancelled
  have hontime : s.OnTime :=
    (Session.onTime_start _).run (Script.timely_perform create get createLayers getLayers policy)
      before
  have hlapses : Lapses (s.sceneFor call)
      (client.perform call.operation call.request (s.sceneFor call)) :=
    lapses_perform
      (fun _ => wrap_of_unserved (create.reachesOut_endpoint .create) hcreate)
      (fun _ => wrap_of_unserved (get.reachesOut_endpoint .get) hget) (hontime.sceneFor call).aside
      hcalls
  obtain ⟨hstate, hnow⟩ := Session.state_step_of_lapses hlapses
  obtain ⟨e, he, hfailed⟩ := hlapses.failed
  refine ⟨hstate, hnow, ⟨e, congrArg _ he, hfailed⟩, fun hdue sleeps after hsleeps => ⟨?_, ?_⟩⟩
  · rw [Session.run_append, Session.run_cons]
  · have hnext : next = s.idle report.elapsed := Session.step_eq_idle hfresh hlapses hdue
    rw [Session.run_append, Session.run_append, Session.run_sleeps hontime, hsleeps, ← hnext]

end

/-- After a call that used up a quota of one in 50 ms, with the shared token due at 300 ms, a call is
rejected and then cancelled in its wait, after 33 ms. Two sleeps may stand in its place. -/
theorem run_eq_of_unserved_cut :
    let script : Script := fun _ => ⟨.ofMillis 7, false, .error (.transport .timeout)⟩
    let client := script.layered script [.limit, .trace] [.trace, .limit] ⟨.ofSecs 2, 2⟩
    let q : Quota := ⟨.ofMillis 50, 1, by decide, by decide⟩
    let before : List Step := [.call ⟨.get, .plain "d" "new", true, false, some (.ofMillis 300)⟩]
    let call : Call := ⟨.create, .plain "d" "new", false, false, some (.ofMillis 33)⟩
    let sleeps : List Duration := [.ofMillis 20, .ofMillis 13]
    let after : List Step := [.call ⟨.create, .plain "e" "new", true, false, none⟩]
    let s := ((Session.metered q).run client before).2
    let report := (s.step client (.call call)).1
    let next := (s.step client (.call call)).2
    [Layer.limit, .trace].count .limit = 1 ∧ [Layer.trace, .limit].count .limit = 1 ∧
      call.shared = false ∧ report.calls = [] ∧
      s.shared ≠ .due next.now ∧ (sleeps.map Duration.awaited).sum = report.elapsed ∧
      next.state = s.state ∧
      ((Session.metered q).run client (before ++ sleeps.map .sleep ++ after)).2 =
        ((Session.metered q).run client (before ++ .call call :: after)).2 := by
  intro script client q before call sleeps after s report next
  obtain ⟨hstate, -, -, hrun⟩ := run_eq_of_unserved script script [.limit, .trace] [.trace, .limit]
    ⟨.ofSecs 2, 2⟩ q (by decide) (by decide) before call rfl (by decide)
  obtain ⟨hcalled, hslept⟩ := hrun (fun _ => by decide) sleeps after (by decide)
  refine ⟨by decide, by decide, rfl, by decide, by decide, by decide, ?_, ?_⟩
  · rw [hstate]
  · rw [hslept, hcalled]

/-- **A sleep is not always what a call is that comes to nothing.** With one call a century, a call
that is made after another is rejected three times and waits for thirty years in between, twice. A
sleep for those sixty years is over after thirty, and the next call is told a longer wait. With one
call in 50 ms, a call is cancelled in its wait at the instant at which the shared token is due. That
token is cancelled then, and the next call under it fails. After a sleep for as long the token is
only due, and the next call succeeds. -/
theorem sleep_differs_from_unserved :
    let script : Script := fun _ => ⟨0, false, .ok ⟨200, .array [.string "d", .string "ready"]⟩⟩
    let client (policy : Policy) := script.layered script [.limit] [.limit] policy
    let call (operation : Operation) (shared : Bool) (cancelAfter : Option Duration) : Step :=
      .call ⟨operation, .plain "d" "new", shared, false, cancelAfter⟩
    let second (q : Quota) (policy : Policy) (first : Step) (step : Step) :=
      ((Session.metered q).step (client policy) first).2.step (client policy) step
    let years (n : Nat) : Duration := .ofSecs (n * 365 * 24 * 60 * 60)
    let century : Quota := ⟨years 100, 1, by decide, by decide⟩
    let patient : Policy := ⟨Duration.longestWait, 3⟩
    let get : Step := call .get false none
    let lapsing := second century patient get (call .create false none)
    let slept := second century patient get (.sleep (years 60))
    let brief : Quota := ⟨.ofMillis 50, 1, by decide, by decide⟩
    let hasty : Policy := ⟨.ofSecs 2, 2⟩
    let due : Step := call .get true (some (.ofMillis 100))
    let cut := second brief hasty due (call .create false (some (.ofMillis 100)))
    let waited := second brief hasty due (.sleep (.ofMillis 100))
    (lapsing.1.calls = [] ∧ lapsing.1.elapsed = years 60 ∧
      (lapsing.2.step (client patient) get).1.result = .called (.error (.rateLimited (years 40))) ∧
      (slept.2.step (client patient) get).1.result = .called (.error (.rateLimited (years 70)))) ∧
    (cut.1.calls = [] ∧ cut.1.elapsed = Duration.ofMillis 100 ∧
      (cut.2.step (client hasty) (call .get true none)).1.result = .called (.error .cancelled) ∧
      (waited.2.step (client hasty) (call .get true none)).1.result =
        .called (.ok (.plain "d" "ready"))) :=
  ⟨⟨rfl, rfl, rfl, rfl⟩, rfl, rfl, rfl, rfl⟩

end Deployer
