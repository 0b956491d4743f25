import Deployer.Options
import Deployer.Proofs.Retry.Course
import Deployer.Proofs.Session.Admission
import Mathlib.Data.List.Nodup

/-!
# What the log of a creation accounts for

The log of a retried creation is written in four places: the client announces each attempt, a limit
layer tells of a call that it rejects, the policy tells why it waits or gives up, and the reply that
came in the end is classified. Together they account for the attempts (`log_accounts_for_attempts`):

* the attempts are announced under the numbers 1, 2, ..., and each of them is either a call that reached
  the service or a rejection;
* between two announcements there is one report of a failure, that of the first of the two attempts;
* the policy tells that it gives up exactly if it does, which is not the case when the service itself
  reports exhausted attempts;
* the reply is classified exactly if there is one, and that is the end of the log.

`Topic` sorts the events of a log. What an endpoint contributes to it is `Answered`, whatever the layers;
`Recounts` says the same of some attempts in a row, and `Ends` how a run goes on after the last.
-/

namespace Deployer

open Activity

variable {κ σ α : Type}

/-! ### Events by their topic -/

/-- What an event says about a retried call. -/
inductive Topic where
  | attempt
  | rejection
  | failure
  | surrender
  | verdict
  | other
deriving DecidableEq

/-- The topic of an event. -/
def Event.topic : Event → Topic
  | attempt .. => .attempt
  | rejected _ => .rejection
  | retrying .. => .failure
  | gaveUp .. => .surrender
  | returned .. | refused .. | unclassified .. => .verdict
  | _ => .other

/-- The events of a trace, in or out of spans. -/
def eventsOf (trace : List (Entry κ)) : List Event :=
  trace.filterMap fun entry => entry.event?.map Prod.fst

/-- The events that are about a topic. -/
def about (topic : Topic) (events : List Event) : List Event := events.filter (·.topic = topic)

/-- The log of a run. -/
def Ran.log (r : Ran κ σ α) : List Event := eventsOf r.trace

section

variable {trace more : List (Entry κ)} {event : Event} {topic : Topic}

@[simp] theorem eventsOf_nil : eventsOf ([] : List (Entry κ)) = [] := rfl

@[simp] theorem eventsOf_logged (event : Event) (span : Option Span) (trace : List (Entry κ)) :
    eventsOf (.logged event span :: trace) = event :: eventsOf trace := rfl

@[simp] theorem eventsOf_reached (call : κ) (trace : List (Entry κ)) :
    eventsOf (.reached call :: trace) = eventsOf trace := rfl

@[simp] theorem eventsOf_append (trace more : List (Entry κ)) :
    eventsOf (trace ++ more) = eventsOf trace ++ eventsOf more := List.filterMap_append

@[simp] theorem eventsOf_within (span : Span) (trace : List (Entry κ)) :
    eventsOf (trace.map (·.within span)) = eventsOf trace := by
  rw [eventsOf, List.filterMap_map]
  congr 1
  funext entry
  rcases entry with ⟨event, _ | own⟩ | call <;> rfl

@[simp] theorem about_nil (topic : Topic) : about topic [] = [] := rfl

@[simp] theorem about_append (topic : Topic) (events later : List Event) :
    about topic (events ++ later) = about topic events ++ about topic later := List.filter_append ..

/-- The events about a topic are those of the log that are about it. -/
private theorem mem_about {events : List Event} :
    event ∈ about topic events ↔ event ∈ events ∧ event.topic = topic := by
  simp [about]

theorem about_cons (topic : Topic) (event : Event) (events : List Event) :
    about topic (event :: events) =
      if event.topic = topic then event :: about topic events else about topic events := by
  simp [about, List.filter_cons]

end

/-- How many invocations of an endpoint a trace tells of: calls that reached the far end, and calls that
were rejected on the way. -/
def invoked (trace : List (Entry κ)) : Nat :=
  (trace.filterMap Entry.call?).length + (about .rejection (eventsOf trace)).length

@[simp] theorem invoked_nil : invoked ([] : List (Entry κ)) = 0 := rfl

@[simp] theorem invoked_append (trace more : List (Entry κ)) :
    invoked (trace ++ more) = invoked trace + invoked more := by
  simp only [invoked, List.filterMap_append, eventsOf_append, about_append, List.length_append]
  omega

private theorem invoked_logged {event : Event} (h : event.topic ≠ .rejection) (span : Option Span)
    (trace : List (Entry κ)) : invoked (.logged event span :: trace) = invoked trace := by
  rw [invoked, eventsOf_logged, about_cons, if_neg h]
  rfl

/-! ### What an endpoint contributes -/

/-- A trace tells of one invocation of an endpoint, and of nothing that concerns attempts. -/
structure Answered (trace : List (Entry κ)) : Prop where
  one : invoked trace = 1
  topic : ∀ event ∈ eventsOf trace, event.topic = .rejection ∨ event.topic = .other

/-- What an invocation logs is about no other topic. -/
theorem Answered.about_eq_nil {trace : List (Entry κ)} {topic : Topic} (h : Answered trace)
    (hrejection : topic ≠ .rejection) (hother : topic ≠ .other) :
    about topic (eventsOf trace) = [] := by
  refine List.filter_eq_nil_iff.mpr fun event hevent htopic => ?_
  rw [← of_decide_eq_true htopic] at hrejection hother
  exact (h.topic event hevent).elim hrejection hother

theorem Endpoint.topic_ending (elapsed : Duration) (result : Except Error Reply) :
    (Endpoint.ending elapsed result).topic = .other := by
  rcases result with e | reply
  · cases e <;> rfl
  · rfl

/-- A trace layer passes on the answer. -/
theorem Answered.traced {inner : Endpoint κ σ} {request : Deployment} {scene : Scene σ}
    (h : Answered (inner request scene).trace) (operation : Operation) :
    Answered (inner.traced operation request scene).trace := by
  rw [Endpoint.traced_apply]
  constructor
  · have hwithin : invoked ((inner request scene).trace.map (·.within ⟨operation, request.id⟩)) = 1 := by
      rw [← h.one, invoked, invoked, List.filterMap_map, Entry.call?_comp_within, eventsOf_within]
    rw [invoked_append, hwithin, invoked_logged (by rw [Endpoint.topic_ending]; decide)]
    rfl
  · intro event hevent
    rw [eventsOf_append, eventsOf_within] at hevent
    rcases List.mem_append.mp hevent with hevent | hevent
    · exact h.topic event hevent
    · rw [List.mem_singleton.mp hevent]
      exact .inr (Endpoint.topic_ending _ _)

/-- **A scripted endpoint is answered**, whatever its layers: the first limit layer that rejects a call
tells so, and the call goes no further. -/
theorem answered_wrap (script : Script) (operation : Operation) (layers : List Layer)
    (request : Deployment) (scene : Scene (World Positions)) :
    Answered (Layer.wrap operation layers (script.endpoint operation) request scene).trace := by
  induction layers generalizing scene with
  | nil =>
    rw [Layer.wrap_nil, Script.endpoint_apply]
    exact ⟨rfl, fun event hevent => nomatch hevent⟩
  | cons layer layers ih =>
    cases layer with
    | limit =>
      rcases Endpoint.limited_cases (Layer.wrap operation layers (script.endpoint operation)) request
        scene with ⟨wait, hrejected⟩ | ⟨limiter, hadmitted⟩
      · rw [Layer.wrap_limit, hrejected]
        refine ⟨rfl, fun event hevent => .inl ?_⟩
        rw [List.mem_singleton.mp hevent]
        rfl
      · rw [Layer.wrap_limit, hadmitted]
        exact ih _
    | trace => exact (ih scene).traced operation

/-! ### Attempts in a row -/

/-- A trace recounts so many attempts: they are numbered from 1, and each is one invocation. Nobody gave
up meanwhile, and no reply was classified. -/
structure Recounts (id : String) (n : Nat) (trace : List (Entry κ)) : Prop where
  attempts : about .attempt (eventsOf trace) = (List.range' 1 n).map (.attempt · id)
  invocations : invoked trace = n
  surrender : about .surrender (eventsOf trace) = []
  verdict : about .verdict (eventsOf trace) = []

/-- A trace tells of the attempt of a number. -/
structure Attempted (id : String) (number : Nat) (trace : List (Entry κ)) : Prop where
  eq_cons : ∃ rest, trace = .logged (.attempt number id) none :: rest ∧ Answered rest

section

variable {id : String} {n number : Nat} {trace more : List (Entry κ)}

theorem recounts_nil : Recounts id 0 ([] : List (Entry κ)) := ⟨rfl, rfl, rfl, rfl⟩

/-- One more attempt. -/
theorem Recounts.attempted (h : Recounts id n trace) (hmore : Attempted id (n + 1) more) :
    Recounts id (n + 1) (trace ++ more) := by
  obtain ⟨rest, rfl, hrest⟩ := hmore
  have hnil {topic : Topic} : topic ≠ .rejection → topic ≠ .other →
      about topic (eventsOf rest) = [] := hrest.about_eq_nil
  constructor
  · simp [about_cons, Event.topic, h.attempts, hnil, List.range'_concat, Nat.add_comm]
  · rw [invoked_append, h.invocations, invoked_logged (by simp [Event.topic]), hrest.one]
  · simp [about_cons, Event.topic, h.surrender, hnil]
  · simp [about_cons, Event.topic, h.verdict, hnil]

/-- Whatever else is logged makes no difference. -/
theorem Recounts.logged (h : Recounts id n trace) (event : Event)
    (htopic : event.topic = .failure ∨ event.topic = .other) :
    Recounts id n (trace ++ [.logged event none]) := by
  constructor
  · rcases htopic with htopic | htopic <;> simp [about_cons, htopic, h.attempts]
  · rcases htopic with htopic | htopic <;> simp [invoked_logged, htopic, h.invocations]
  · rcases htopic with htopic | htopic <;> simp [about_cons, htopic, h.surrender]
  · rcases htopic with htopic | htopic <;> simp [about_cons, htopic, h.verdict]

end

/-! ### Runs -/

namespace Policy

variable {p : Policy} {operation : Nat → Activity κ σ (Except Error α)} {scene : Scene σ}
  {id : String} {n : Nat}

/-- How the attempt of a number turns out, if each one before it is followed by another. -/
def outcome (p : Policy) (operation : Nat → Activity κ σ (Except Error α)) (scene : Scene σ)
    (number : Nat) : Except Error α := (p.nth operation scene (number - 1)).value

/-- An attempt that passes is followed by the report of its failure. -/
theorem Passes.episode_eq {i : Nat} (h : p.Passes operation scene i) :
    ∃ e, p.outcome operation scene (i + 1) = .error e ∧
      p.episode operation scene i = (p.nth operation scene i).trace ++
        [.logged (.retrying (i + 1) p.maxAttempts e p.interval) none] := by
  obtain ⟨e, he, -⟩ := eq_error_of_not_conclusive h.fails
  exact ⟨e, he, by rw [episode, he]⟩

/-- Each attempt of a run is told of. -/
def Announces (id : String) (operation : Nat → Activity κ σ (Except Error α)) : Prop :=
  ∀ number scene, Attempted id number (operation number scene).trace

/-- Attempts that pass are recounted. -/
theorem Announces.recounts (h : Announces id operation) (hpasses : ∀ i < n, p.Passes operation scene i) :
    Recounts id n ((List.range n).flatMap (p.episode operation scene)) := by
  induction n with
  | zero => exact recounts_nil
  | succ n ih =>
    obtain ⟨e, -, hepisode⟩ := (hpasses n n.lt_succ_self).episode_eq
    have hpast := ih fun i hi => hpasses i (Nat.lt_succ_of_lt hi)
    rw [List.range_succ, List.flatMap_append, List.flatMap_singleton, hepisode, ← List.append_assoc]
    exact (hpast.attempted (h (n + 1) _)).logged _ (.inl rfl)

/-- How a run goes on after the last of so many attempts: it is cancelled, it ends as the attempt does,
or it gives up. -/
inductive Ends (p : Policy) (operation : Nat → Activity κ σ (Except Error α)) (scene : Scene σ)
    (n : Nat) (elapsed : Duration) : Except Error α → List (Entry κ) → Prop
  | cancelled (h : 0 < n → conclusive (p.outcome operation scene n) = false) :
    Ends p operation scene n elapsed (.error .cancelled) []
  | concluded (hpos : 0 < n) (h : conclusive (p.outcome operation scene n) = true) :
    Ends p operation scene n elapsed (p.outcome operation scene n) []
  | exhausted {e : Error} (he : p.outcome operation scene n = .error e)
    (hagain : e.isRetryable = true) :
    Ends p operation scene n elapsed (.error (.exhausted n e)) [.logged (.gaveUp n elapsed e) none]

/-- **What the log of a run tells** of so many attempts. -/
structure Recounted (p : Policy) (operation : Nat → Activity κ σ (Except Error α)) (scene : Scene σ)
    (id : String) (n : Nat) : Prop where
  le_cap : n ≤ p.cap
  /-- No attempt but the last ends the run. -/
  earlier : ∀ k, 0 < k → k < n → conclusive (p.outcome operation scene k) = false
  /-- Between two attempts the failure of the first is reported. -/
  failure : ∀ k, 0 < k → k < n → ∃ e past between rest, p.outcome operation scene k = .error e ∧
    (p.run operation scene).log =
      past ++ .attempt k id :: (between ++ .attempt (k + 1) id :: rest) ∧
    about .failure between = [.retrying k p.maxAttempts e p.interval]
  /-- After what recounts the attempts comes the end. -/
  ends : ∃ past tail, (p.run operation scene).trace = past ++ tail ∧ Recounts id n past ∧
    Ends p operation scene n ((p.run operation scene).scene.now - scene.now)
      (p.run operation scene).value tail

/-- Between an attempt that passes and the next one its failure is reported. -/
theorem Announces.exists_failure (h : Announces id operation) {i : Nat} (hi : i + 1 < p.cap)
    (hpasses : ∀ j ≤ i, p.Passes operation scene j)
    (hbegins : (p.onset operation scene (i + 1)).token.isCancelled = false) :
    ∃ e past between rest, p.outcome operation scene (i + 1) = .error e ∧
      (p.run operation scene).log =
        past ++ .attempt (i + 1) id :: (between ++ .attempt (i + 2) id :: rest) ∧
      about .failure between = [.retrying (i + 1) p.maxAttempts e p.interval] := by
  obtain ⟨e, he, hepisode⟩ := (hpasses i (Nat.le_refl i)).episode_eq
  obtain ⟨next, hnext⟩ := p.remainder_eq_attempt operation scene (i + 1)
  obtain ⟨more, hmore⟩ : ∃ more, (attempt (i + 2) (operation (i + 2)) next
      (p.onset operation scene (i + 1))).trace = _ ++ more := attempt_trace hbegins
  obtain ⟨told, htold, hanswered⟩ := h (i + 1) (p.onset operation scene i)
  obtain ⟨told', htold', -⟩ := h (i + 2) (p.onset operation scene (i + 1))
  refine ⟨e, eventsOf ((List.range i).flatMap (p.episode operation scene)),
    eventsOf told ++ [.retrying (i + 1) p.maxAttempts e p.interval], eventsOf (told' ++ more), he,
    ?_, ?_⟩
  · rw [Ran.log, run_skip hi fun j hj => hpasses j (Nat.le_of_lt_succ hj), hnext, Ran.after, hmore,
      htold', List.range_succ, List.flatMap_append, List.flatMap_singleton, hepisode, nth, htold]
    simp
  · rw [about_append, hanswered.about_eq_nil (by decide) (by decide)]
    rfl

/-- **Every run is recounted.** -/
theorem Announces.exists_recounted (h : Announces id operation) (p : Policy) (scene : Scene σ) :
    ∃ n, p.Recounted operation scene id n := by
  obtain ⟨m, hstop⟩ := p.exists_stop operation scene
  have hpast := h.recounts hstop.passes
  have hrun := run_skip hstop.lt_cap hstop.passes
  have hfails (k : Nat) (hpos : 0 < k) (hk : k ≤ m) :
      conclusive (p.outcome operation scene k) = false := by
    obtain ⟨i, rfl⟩ := Nat.exists_eq_add_one_of_ne_zero (Nat.ne_of_gt hpos)
    exact (hstop.passes i hk).fails
  have hreport (i : Nat) (hi : i < m)
      (hbegins : (p.onset operation scene (i + 1)).token.isCancelled = false) :=
    h.exists_failure (Nat.lt_of_le_of_lt hi hstop.lt_cap)
      (fun j hj => hstop.passes j (Nat.lt_of_le_of_lt hj hi)) hbegins
  cases htoken : (p.onset operation scene m).token.isCancelled with
  | true =>
    -- the run is cancelled before the attempt at which it stops
    refine ⟨m, Nat.le_of_lt hstop.lt_cap, fun k hpos hk => hfails k hpos (Nat.le_of_lt hk),
      fun k hpos hk => ?_, ?_⟩
    · obtain ⟨i, rfl⟩ := Nat.exists_eq_add_one_of_ne_zero (Nat.ne_of_gt hpos)
      exact hreport i (Nat.lt_of_succ_lt hk) (hstop.passes (i + 1) hk).begins
    · rw [hrun, stop_of_cancelled htoken]
      exact ⟨_, [], (List.append_nil _).symm, hpast.logged _ (.inr rfl), .cancelled fun hpos =>
        hfails m hpos (Nat.le_refl m)⟩
  | false =>
    refine ⟨m + 1, hstop.lt_cap, fun k hpos hk => hfails k hpos (Nat.le_of_lt_succ hk),
      fun k hpos hk => ?_, ?_⟩
    · obtain ⟨i, rfl⟩ := Nat.exists_eq_add_one_of_ne_zero (Nat.ne_of_gt hpos)
      refine hreport i (Nat.lt_of_succ_lt_succ hk) ?_
      rcases Nat.lt_or_eq_of_le (Nat.le_of_lt_succ hk) with hlt | rfl
      · exact (hstop.passes (i + 1) hlt).begins
      · exact htoken
    · have hall := hpast.attempted (h (m + 1) (p.onset operation scene m))
      cases hvalue : conclusive (p.nth operation scene m).value with
      | true =>
        rw [hrun, stop_of_conclusive htoken hvalue]
        exact ⟨_, [], (List.append_nil _).symm, hall, .concluded m.succ_pos hvalue⟩
      | false =>
        obtain ⟨e, he, hagain⟩ := eq_error_of_not_conclusive hvalue
        rcases Nat.lt_or_ge (m + 1) p.cap with hlt | hge
        · obtain ⟨aside, hcut⟩ := stop_of_cut htoken he hagain hlt fun hwaits =>
            hstop.last.elim (fun hcap => absurd hcap (Nat.ne_of_lt hlt)) fun hpass =>
              hpass ⟨htoken, hvalue, hwaits⟩
          -- the reports of the failure and of the wait that was cut short change nothing
          have hreported := (hall.logged (.retrying (m + 1) p.maxAttempts e p.interval)
            (.inl rfl)).logged .cancelledWaiting (.inr rfl)
          rw [hrun, hcut]
          refine ⟨_, [], ?_, hreported, .cancelled fun _ => hvalue⟩
          rw [nth] at he
          simp [Ran.after, episode, nth, he]
        · rw [hrun, stop_of_cap htoken he hagain (Nat.le_antisymm hstop.lt_cap hge)]
          exact ⟨_, _, (List.append_assoc ..).symm, hall, .exhausted he hagain⟩

end Policy

/-! ### Dividing a log -/

section

variable {log past between rest past' between' rest' : List Event} {event next : Event}

/-- An attempt that is announced once is announced neither before nor after. -/
private theorem notMem_of_nodup (hnodup : (about .attempt log).Nodup)
    (htopic : event.topic = .attempt)
    (h : log = past ++ event :: rest) : event ∉ past ∧ event ∉ rest := by
  rw [h, about_append, about_cons, if_pos htopic, List.nodup_middle, List.nodup_cons,
    List.mem_append, not_or] at hnodup
  exact ⟨fun hmem => hnodup.1.1 (mem_about.mpr ⟨hmem, htopic⟩),
    fun hmem => hnodup.1.2 (mem_about.mpr ⟨hmem, htopic⟩)⟩

/-- If no attempt is announced twice, then two announcements have one list of events between them. -/
private theorem eq_between (hnodup : (about .attempt log).Nodup) (hevent : event.topic = .attempt)
    (hnext : next.topic = .attempt) (h : log = past ++ event :: (between ++ next :: rest))
    (h' : log = past' ++ event :: (between' ++ next :: rest')) : between = between' := by
  obtain ⟨hpast, hrest⟩ := notMem_of_nodup hnodup hevent h
  obtain ⟨-, -, hfollows⟩ :=
    (List.append_cons_inj_of_notMem hpast hrest).mp (h.symm.trans h')
  have hbetween : next ∉ between ∧ next ∉ rest := by
    have hdivided : log = (past ++ event :: between) ++ next :: rest := by simpa using h
    refine (notMem_of_nodup hnodup hnext hdivided).imp_left fun hmem => ?_
    simpa using fun hbetween => hmem (by simp [hbetween])
  exact ((List.append_cons_inj_of_notMem hbetween.1 hbetween.2).mp hfollows).1

end

/-! ### Creations -/

namespace Client

/-- How a creation goes on after the last of so many attempts: as `Policy.Ends` says, and with what a
reply means. -/
inductive Closes (n : Nat) (elapsed : Duration) (outcome : Except Error Reply) :
    Except Error Deployment → List (Entry κ) → Prop
  | cancelled (h : 0 < n → Policy.conclusive outcome = false) :
    Closes n elapsed outcome (.error .cancelled) []
  | failed {e : Error} (he : outcome = .error e) : Closes n elapsed outcome (.error e) []
  | classified {reply : Reply} (hpos : 0 < n) (h : outcome = .ok reply) :
    Closes n elapsed outcome (classify reply).toResult
      [.logged ((classify reply).event .create) none]
  | exhausted {e : Error} (he : outcome = .error e) :
    Closes n elapsed outcome (.error (.exhausted n e)) [.logged (.gaveUp n elapsed e) none]

section

variable {n : Nat} {elapsed : Duration} {outcome : Except Error Reply}
  {value : Except Error Deployment} {tail : List (Entry κ)}

private theorem topic_event (operation : Operation) (outcome : Outcome) :
    (outcome.event operation).topic = .verdict := by
  cases outcome <;> rfl

private theorem exhausted_ne (n : Nat) (e : Error) : Error.exhausted n e ≠ e := fun h => by
  have hsize := congrArg sizeOf h
  simp only [Error.exhausted.sizeOf_spec] at hsize
  omega

/-- After the last attempt there is no other. -/
theorem Closes.attempts (h : Closes n elapsed outcome value tail) :
    about .attempt (eventsOf tail) = [] := by
  cases h with
  | cancelled => rfl
  | failed => rfl
  | classified => simp [about_cons, topic_event]
  | exhausted => rfl

/-- No call is made once the last attempt is over. -/
theorem Closes.invocations (h : Closes n elapsed outcome value tail) : invoked tail = 0 := by
  cases h with
  | cancelled => rfl
  | failed => rfl
  | classified => rw [invoked_logged (by simp [topic_event]), invoked_nil]
  | exhausted => rfl

/-- Giving up is told of, as is the failure of the last attempt, -/
theorem Closes.surrender {e : Error} (h : Closes n elapsed outcome value tail)
    (he : outcome = .error e) (hvalue : value = .error (.exhausted n e)) :
    about .surrender (eventsOf tail) = [.gaveUp n elapsed e] := by
  cases h with
  | cancelled => cases hvalue
  | failed he' =>
    -- the service cannot have reported its own report
    cases he.symm.trans he'
    exact absurd (Except.error.inj hvalue).symm (exhausted_ne n e)
  | classified _ hreply => cases he.symm.trans hreply
  | exhausted he' =>
    cases he.symm.trans he'
    rfl

/-- and nothing else is taken for it. -/
theorem Closes.no_surrender (h : Closes n elapsed outcome value tail)
    (hnot : ∀ e, outcome = .error e → value ≠ .error (.exhausted n e)) :
    about .surrender (eventsOf tail) = [] := by
  cases h with
  | cancelled => rfl
  | failed => rfl
  | classified => simp [about_cons, topic_event]
  | exhausted he => exact absurd rfl (hnot _ he)

/-- A reply is classified in the end, -/
theorem Closes.verdict {reply : Reply} (h : Closes n elapsed outcome value tail) (hpos : 0 < n)
    (hreply : outcome = .ok reply) : eventsOf tail = [(classify reply).event .create] := by
  cases h with
  | cancelled hnot =>
    rw [hreply] at hnot
    cases hnot hpos
  | failed he => cases hreply.symm.trans he
  | classified _ hreply' =>
    cases hreply.symm.trans hreply'
    rfl
  | exhausted he => cases hreply.symm.trans he

/-- and nothing is classified without one. -/
theorem Closes.no_verdict (h : Closes n elapsed outcome value tail)
    (hnone : 0 < n → ∃ e, outcome = .error e) : about .verdict (eventsOf tail) = [] := by
  cases h with
  | cancelled => rfl
  | failed => rfl
  | classified hpos hreply =>
    obtain ⟨e, he⟩ := hnone hpos
    cases he.symm.trans hreply
  | exhausted => rfl

end

variable {client : Client κ σ} {request : Deployment} {scene : Scene σ} {n : Nat}

/-- How the attempt of a number turns out in a creation. -/
def outcome (client : Client κ σ) (request : Deployment) (scene : Scene σ) (number : Nat) :
    Except Error Reply :=
  client.policy.outcome (client.creating request) scene number

/-- What ends a retried run, and then the classification, closes a creation. -/
private theorem closes_of_ends {p : Policy} {operation : Nat → Activity κ σ (Except Error Reply)}
    {elapsed : Duration} {value : Except Error Reply} {tail : List (Entry κ)}
    (h : p.Ends operation scene n elapsed value tail) (later : Scene σ) :
    Closes n elapsed (p.outcome operation scene n)
      (resolve .create value later : Ran κ σ _).value
      (tail ++ (resolve .create value later : Ran κ σ _).trace) := by
  cases h with
  | cancelled hnot => exact .cancelled hnot
  | concluded hpos =>
    generalize p.outcome operation scene n = outcome
    cases outcome with
    | ok reply => exact .classified hpos rfl
    | error e => exact .failed rfl
  | exhausted he => exact .exhausted he

private theorem resolve_scene (result : Except Error Reply) :
    (resolve .create result scene : Ran κ σ _).scene = scene := by
  cases result <;> rfl

/-- A creation recounts its attempts, and then it is closed. -/
private theorem exists_closes
    (h : client.policy.Recounted (client.creating request) scene request.id n) :
    ∃ past tail, (client.createDeployment request scene).trace = past ++ tail ∧
      Recounts request.id n past ∧
      Closes n ((client.createDeployment request scene).scene.now - scene.now)
        (client.outcome request scene n) (client.createDeployment request scene).value tail := by
  obtain ⟨past, tail, htrace, hpast, hends⟩ := h.ends
  rw [createDeployment_eq, bind_apply, htrace, List.append_assoc]
  refine ⟨past, _, rfl, hpast, ?_⟩
  simp only [resolve_scene]
  exact closes_of_ends hends _

/-- **What the log of a creation tells** of so many attempts. -/
structure Accounts (client : Client κ σ) (request : Deployment) (scene : Scene σ) (n : Nat) :
    Prop where
  le_maxAttempts : n ≤ client.policy.maxAttempts
  /-- The attempts are announced in order, -/
  attempts : about .attempt (client.createDeployment request scene).log =
    (List.range' 1 n).map (.attempt · request.id)
  /-- and each of them reaches the service or is rejected. -/
  invocations : n = (client.createDeployment request scene).calls.length +
    (about .rejection (client.createDeployment request scene).log).length
  /-- Between two attempts there is one report of a failure, that of the first. -/
  failure : ∀ k past between rest, (client.createDeployment request scene).log =
      past ++ .attempt k request.id :: (between ++ .attempt (k + 1) request.id :: rest) →
    ∃ e, client.outcome request scene k = .error e ∧ about .failure between =
      [.retrying k client.policy.maxAttempts e client.policy.interval]
  /-- If the attempts are exhausted, it is told once that the client gives up; -/
  surrender : ∀ e, client.outcome request scene n = .error e →
    (client.createDeployment request scene).value = .error (.exhausted n e) →
    about .surrender (client.createDeployment request scene).log =
      [.gaveUp n ((client.createDeployment request scene).scene.now - scene.now) e]
  /-- otherwise it is not. -/
  no_surrender : (∀ e, client.outcome request scene n = .error e →
      (client.createDeployment request scene).value ≠ .error (.exhausted n e)) →
    about .surrender (client.createDeployment request scene).log = []
  /-- If an attempt brings a reply, then what it means is the end of the log, and is told only there. -/
  verdict : ∀ k reply, 0 < k → k ≤ n → client.outcome request scene k = .ok reply →
    ∃ front, (client.createDeployment request scene).log =
      front ++ [(classify reply).event .create] ∧ about .verdict front = []
  /-- If none does, nothing is told of a reply. -/
  no_verdict : (∀ k, 0 < k → k ≤ n → ∃ e, client.outcome request scene k = .error e) →
    about .verdict (client.createDeployment request scene).log = []

private theorem log_createDeployment (client : Client κ σ) (request : Deployment)
    (scene : Scene σ) :
    ∃ verdict, (client.createDeployment request scene).log =
      (client.policy.run (client.creating request) scene).log ++ verdict := by
  rw [createDeployment_eq, bind_apply]
  exact ⟨_, eventsOf_append ..⟩

/-- Every creation is accounted for. -/
private theorem accounts_of_recounted
    (h : client.policy.Recounted (client.creating request) scene request.id n)
    (hpolicy : client.policy.validate = .ok ()) : client.Accounts request scene n := by
  obtain ⟨past, tail, htrace, hpast, hcloses⟩ := exists_closes h
  obtain ⟨verdict, hverdict⟩ := log_createDeployment client request scene
  have hlog : (client.createDeployment request scene).log = eventsOf past ++ eventsOf tail := by
    rw [Ran.log, htrace, eventsOf_append]
  have hattempts : about .attempt (client.createDeployment request scene).log =
      (List.range' 1 n).map (.attempt · request.id) := by
    rw [hlog, about_append, hpast.attempts, hcloses.attempts, List.append_nil]
  have hnumber {k : Nat} (hk : Event.attempt k request.id ∈
      (client.createDeployment request scene).log) : 0 < k ∧ k ≤ n := by
    have hmem := mem_about.mpr ⟨hk, rfl⟩
    rw [Event.topic, hattempts, List.mem_map] at hmem
    obtain ⟨_, hrange, hk⟩ := hmem
    cases hk
    rw [List.mem_range'_1] at hrange
    omega
  constructor
  · have hle := h.le_cap
    have hpos := Policy.validate_eq_ok_iff.mp hpolicy
    rw [Policy.cap] at hle
    omega
  · exact hattempts
  · have hall : invoked (client.createDeployment request scene).trace = n := by
      rw [htrace, invoked_append, hpast.invocations, hcloses.invocations, Nat.add_zero]
    exact hall.symm
  · intro k past' between rest hdivided
    have hk : 0 < k ∧ k ≤ n := hnumber (by simp [hdivided])
    have hsucc : 0 < k + 1 ∧ k + 1 ≤ n := hnumber (by simp [hdivided])
    obtain ⟨e, past'', between'', rest'', he, hrun, hfailure⟩ := h.failure k hk.1 hsucc.2
    have hdivided' : (client.createDeployment request scene).log = past'' ++
        .attempt k request.id :: (between'' ++ .attempt (k + 1) request.id :: (rest'' ++ verdict)) := by
      rw [hverdict, hrun]
      simp
    have hnodup : (about .attempt (client.createDeployment request scene).log).Nodup := by
      rw [hattempts]
      exact (List.nodup_range' 1).map fun _ _ heq => (Event.attempt.inj heq).1
    rw [eq_between hnodup rfl rfl hdivided hdivided']
    exact ⟨e, he, hfailure⟩
  · intro e he hvalue
    rw [hlog, about_append, hpast.surrender, hcloses.surrender he hvalue]
    rfl
  · intro hnot
    rw [hlog, about_append, hpast.surrender, hcloses.no_surrender hnot]
    rfl
  · intro k reply hpos hk hreply
    -- a reply ends the run, so it is that of the last attempt
    obtain rfl : k = n := by
      refine Nat.le_antisymm hk (Nat.le_of_not_lt fun hlt => ?_)
      have hearlier := h.earlier k hpos hlt
      rw [outcome] at hreply
      rw [hreply] at hearlier
      cases hearlier
    exact ⟨eventsOf past, by rw [hlog, hcloses.verdict hpos hreply], hpast.verdict⟩
  · intro hnone
    rw [hlog, about_append, hpast.verdict,
      hcloses.no_verdict fun hpos => hnone n hpos (Nat.le_refl n)]
    rfl

end Client

/-- **The log of a creation accounts for its attempts**, whatever the scripts of the far end, the layers
around it, the limiter that they share, and the instant at which the call is cancelled. -/
theorem log_accounts_for_attempts (create get : Script) (createLayers getLayers : List Layer)
    {policy : Policy} (h : policy.validate = .ok ()) (request : Deployment)
    (scene : Scene (World Positions)) :
    ∃ n, (Script.layered create get createLayers getLayers policy).Accounts request scene n := by
  have hannounces : Policy.Announces request.id
      ((create.layered get createLayers getLayers policy).creating request) := fun number scene =>
    ⟨_, congrArg Ran.trace (Client.creating_apply number),
      answered_wrap create .create createLayers request scene⟩
  obtain ⟨n, hrecounted⟩ := hannounces.exists_recounted policy scene
  exact ⟨n, Client.accounts_of_recounted hrecounted h⟩

/-- A creation that times out, is rejected, and succeeds at its third attempt, which is the last that the
policy allows. -/
theorem log_accounts_for_attempts_rejected :
    let q : Quota := ⟨.ofMillis 100, 1, by decide, by decide⟩
    let script : Script := .ofList ⟨.ofMillis 10, false, .error (.transport .timeout)⟩
      [⟨0, false, .ok ⟨200, .array [.string "d", .string "ready"]⟩⟩]
    let policy : Policy := ⟨.ofMillis 50, 3⟩
    let client := script.layered script [.limit, .trace] [] policy
    let scene : Scene (World Positions) := ⟨0, .live, .live, ⟨some (.fresh q), .start⟩⟩
    policy.validate = .ok () ∧ (∃ n, client.Accounts (.plain "d" "new") scene n) ∧
      (client.createDeployment (.plain "d" "new") scene).log =
        [.attempt 1 "d", .failed (.transport .timeout) (.ofMillis 10),
          .retrying 1 3 (.transport .timeout) (.ofMillis 50),
          .attempt 2 "d", .rejected (.rateLimited (.ofMillis 40)),
          .retrying 2 3 (.rateLimited (.ofMillis 40)) (.ofMillis 50),
          .attempt 3 "d", .completed 200 0, .returned .create "d" "ready"] := by
  intro q script policy client scene
  have hpolicy : policy.validate = .ok () := rfl
  have haccounts := log_accounts_for_attempts script script [.limit, .trace] [] hpolicy
    (.plain "d" "new") scene
  subst scene client policy script q
  exact ⟨hpolicy, haccounts, by rfl⟩

end Deployer
