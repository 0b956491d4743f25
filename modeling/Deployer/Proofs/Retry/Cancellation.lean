import Deployer.Proofs.Retry.Course
import Deployer.Script

/-!
# Runs that are cancelled

The token of a run of a script may be cancelled before the run, by the clock, or by a reply. Its
delays go on to their end all the same, its waits do not. So there are three phases in which the
instant may fall (`Phase`, `Script.Struck`), and `run_struck` says what becomes of the run in
each: no attempt begins after that instant, and the run is over then, or with the attempt that is
under way.

* Before the run: there is no attempt at all.
* During an attempt: the attempt ends as it would, and the run with it, cancelled if it would have
  had to wait.
* In a wait: the run ends at that very instant, cancelled.

A token that is cancelled before some attempt could begin is cancelled in one of these phases
(`exists_struck`).

At the very end of a sleep the sleep comes first: a token that is due just then counts as
cancelled in the phase that begins there.
-/

namespace Deployer

/-- Where in a run an instant may fall. The attempts are counted from 0. -/
inductive Phase where
  | before
  | during (i : Nat)
  | waiting (i : Nat)
deriving DecidableEq, Repr

open Policy

namespace Script

/-- One attempt of a run: an invocation of the endpoint, with the number of the attempt. -/
def numbered (script : Script) (request : Deployment) (number : Nat) :
    Activity Invocation (World Positions) (Except Error (Nat × Reply)) := do
  return (← script.endpoint .create request).map (number, ·)

private theorem run_eq (script : Script) (p : Policy) (request : Deployment) :
    script.run p request = p.run (script.numbered request) := rfl

section

variable (script : Script) (p : Policy) (scene : Scene (World Positions))

/-- The turn that the attempt of an index plays. -/
def turnOf (i : Nat) : Turn := script (scene.state.far.create + i)

/-- When the attempt of an index begins, if each one before it is followed by another. -/
def begins : Nat → Duration
  | 0 => scene.now
  | i + 1 => begins i + (script.turnOf scene i).delay.awaited + p.interval.awaited

/-- When the attempt of an index ends. -/
def ends (i : Nat) : Duration := script.begins p scene i + (script.turnOf scene i).delay.awaited

/-- The first calls of a run. -/
def firstCalls (request : Deployment) (n : Nat) : List Invocation :=
  (List.range n).map fun i => ⟨.create, script.begins p scene i, request.id⟩

/-- **When the token of a run is cancelled, and in which phase.** A reply cancels it at the end of
its attempt, if neither an earlier reply nor the clock did. -/
inductive Struck : Phase → Duration → Prop
  | before {c : Duration} (token : scene.token = .cancelled) (le : c ≤ scene.now) :
    Struck .before c
  | timed {i : Nat} {c : Duration} (token : scene.token = .due c)
    (begun : script.begins p scene i ≤ c) (not_over : c < script.ends p scene i)
    (quiet : ∀ j < i, (script.turnOf scene j).cancels = false) : Struck (.during i) c
  | replied {i : Nat} (token : scene.token.Outlasts (script.ends p scene i))
    (cancels : (script.turnOf scene i).cancels = true)
    (quiet : ∀ j < i, (script.turnOf scene j).cancels = false) :
    Struck (.during i) (script.ends p scene i)
  | waiting {i : Nat} {c : Duration} (token : scene.token = .due c)
    (ended : script.ends p scene i ≤ c) (not_next : c < script.begins p scene (i + 1))
    (quiet : ∀ j ≤ i, (script.turnOf scene j).cancels = false) : Struck (.waiting i) c

/-- A run comes to the attempt of an index: the cap allows it, and all before it fail in a way
that may be repeated. -/
structure Reaches (i : Nat) : Prop where
  lt_cap : i < p.cap
  fails : ∀ j < i, conclusive (script.turnOf scene j).answer = false

end

/-- What becomes of a run that is cancelled while the attempt of an index is under way. -/
def verdict (p : Policy) (i : Nat) : Except Error Reply → Except Error (Nat × Reply)
  | .ok reply => .ok (i + 1, reply)
  | .error e =>
    if e.isRetryable then
      if i + 1 = p.cap then .error (.exhausted (i + 1) e) else .error .cancelled
    else .error e

/-- A conclusive answer is the verdict, with the number of the attempt. -/
private theorem verdict_of_conclusive {p : Policy} {i : Nat} {answer : Except Error Reply}
    (h : conclusive answer = true) : verdict p i answer = answer.map (i + 1, ·) := by
  cases answer with
  | ok reply => rfl
  | error e =>
    rw [conclusive, Bool.not_eq_true'] at h
    rw [verdict, h, if_neg Bool.false_ne_true]
    rfl

/-- An attempt that fails in a way that may be repeated, and is not the last, is cancelled after
it. -/
private theorem verdict_of_not_conclusive {p : Policy} {i : Nat} {answer : Except Error Reply}
    (h : conclusive answer = false) (hcap : i + 1 ≠ p.cap) :
    verdict p i answer = .error .cancelled := by
  obtain ⟨e, rfl, hagain⟩ := eq_error_of_not_conclusive h
  rw [verdict, if_pos hagain, if_neg hcap]

variable {script : Script} {p : Policy} {scene : Scene (World Positions)}
  (request : Deployment)

/-! ### The attempts of a run of a script -/

private theorem begins_le_ends (i : Nat) : script.begins p scene i ≤ script.ends p scene i :=
  Nat.le_add_right _ _

theorem ends_le_begins_succ (i : Nat) : script.ends p scene i ≤ script.begins p scene (i + 1) :=
  Nat.le_add_right _ _

/-- Later attempts begin no earlier. -/
private theorem begins_mono {i j : Nat} (h : i ≤ j) :
    script.begins p scene i ≤ script.begins p scene j := by
  induction h with
  | refl => exact Nat.le_refl _
  | step h ih => exact Nat.le_trans ih (Nat.le_trans (begins_le_ends _) (ends_le_begins_succ _))

/-- Later attempts end no earlier. -/
private theorem ends_mono {i j : Nat} (h : i ≤ j) :
    script.ends p scene i ≤ script.ends p scene j := by
  rcases Nat.lt_or_eq_of_le h with hlt | rfl
  · exact Nat.le_trans (ends_le_begins_succ i) (Nat.le_trans (begins_mono hlt) (begins_le_ends j))
  · exact Nat.le_refl _

theorem Reaches.mono {i j : Nat} (h : script.Reaches p scene j) (hle : i ≤ j) :
    script.Reaches p scene i :=
  ⟨Nat.lt_of_le_of_lt hle h.lt_cap, fun k hk => h.fails k (Nat.lt_of_lt_of_le hk hle)⟩

theorem numbered_apply (number : Nat) (scene : Scene (World Positions)) :
    script.numbered request number scene =
      ⟨(script scene.state.far.create).answer.map (number, ·),
        (script scene.state.far.create).ending
          { scene with state := { scene.state with far := scene.state.far.advance .create } },
        [.reached ⟨.create, scene.now, request.id⟩]⟩ := by
  simp [numbered, endpoint_apply, Positions.count]

/-- An attempt begins on time, and plays its turn, whatever becomes of the token. -/
private theorem onset_numbered (i : Nat) :
    (p.onset (script.numbered request) scene i).now = script.begins p scene i ∧
      (p.onset (script.numbered request) scene i).state.far.create =
        scene.state.far.create + i := by
  induction i with
  | zero => exact ⟨rfl, rfl⟩
  | succ i ih =>
    obtain ⟨hnow, hposition⟩ := ih
    -- a turn and the sleep after it go on to their end even if the token is cancelled
    rw [onset, numbered_apply, Scene.later, hposition]
    dsimp only
    rw [Turn.now_ending, Turn.state_ending]
    refine ⟨?_, ?_⟩
    · rw [begins, ← hnow]
      rfl
    · dsimp only [Positions.advance]
      rw [hposition, Nat.add_assoc]

/-- The attempt of an index plays the turn of that index. -/
private theorem nth_numbered (i : Nat) :
    p.nth (script.numbered request) scene i =
      ⟨(script.turnOf scene i).answer.map (i + 1, ·),
        (script.turnOf scene i).ending
          { p.onset (script.numbered request) scene i with
            state := { (p.onset (script.numbered request) scene i).state with
              far := (p.onset (script.numbered request) scene i).state.far.advance .create } },
        [.reached ⟨.create, script.begins p scene i, request.id⟩]⟩ := by
  rw [nth, numbered_apply, (onset_numbered request i).2, ← (onset_numbered request i).1, turnOf]

/-- It ends when the timetable says. -/
private theorem now_nth_numbered (i : Nat) :
    (p.nth (script.numbered request) scene i).scene.now = script.ends p scene i := by
  rw [nth_numbered, Turn.now_ending]
  dsimp only
  rw [(onset_numbered request i).1, ends]

private theorem token_nth_numbered (i : Nat) :
    (p.nth (script.numbered request) scene i).scene.token =
      if (script.turnOf scene i).cancels then .cancelled
      else (p.onset (script.numbered request) scene i).token.settled (script.ends p scene i) := by
  rw [nth_numbered, Turn.ending, apply_ite Scene.token]
  dsimp only [Scene.later]
  rw [(onset_numbered request i).1, ends]

/-- It makes one call, as it begins. -/
private theorem calls_nth_numbered (i : Nat) :
    (p.nth (script.numbered request) scene i).calls =
      [⟨.create, script.begins p scene i, request.id⟩] := by
  rw [nth_numbered]
  rfl

private theorem conclusive_map (number : Nat) (answer : Except Error Reply) :
    conclusive (answer.map (number, ·)) = conclusive answer := by
  cases answer <;> rfl

/-! ### As long as the token is not cancelled -/

/-- No turn before an index cancels, nor does the clock before the attempt there begins. -/
structure Clear (script : Script) (p : Policy) (scene : Scene (World Positions)) (i : Nat) :
    Prop where
  quiet : ∀ j < i, (script.turnOf scene j).cancels = false
  outlasts : scene.token.Outlasts (script.begins p scene i)

/-- What is clear up to an attempt is clear up to those before it. -/
theorem Clear.mono {i j : Nat} (h : script.Clear p scene j) (hle : i ≤ j) :
    script.Clear p scene i :=
  ⟨fun k hk => h.quiet k (Nat.lt_of_lt_of_le hk hle), h.outlasts.mono (begins_mono hle)⟩

theorem clear_succ_iff {i : Nat} : script.Clear p scene (i + 1) ↔
    script.Clear p scene i ∧ (script.turnOf scene i).cancels = false ∧
      scene.token.Outlasts (script.begins p scene (i + 1)) := by
  refine ⟨fun h => ⟨h.mono i.le_succ, h.quiet i i.lt_succ_self, h.outlasts⟩, ?_⟩
  rintro ⟨h, hturn, houtlasts⟩
  refine ⟨fun j hj => ?_, houtlasts⟩
  rcases Nat.lt_succ_iff_lt_or_eq.mp hj with hlt | rfl
  · exact h.quiet j hlt
  · exact hturn

/-- Until then the token stays as it was. -/
theorem Clear.token_onset {i : Nat} (h : script.Clear p scene i) :
    (p.onset (script.numbered request) scene i).token = scene.token := by
  induction i with
  | zero => rfl
  | succ i ih =>
    obtain ⟨hclear, hturn, houtlasts⟩ := clear_succ_iff.mp h
    have hend : (p.nth (script.numbered request) scene i).scene.token = scene.token := by
      rw [token_nth_numbered, hturn, if_neg Bool.false_ne_true, ih hclear]
      exact (houtlasts.mono (ends_le_begins_succ i)).settled_eq
    rw [onset_succ, Scene.later]
    dsimp only
    rw [hend, now_nth_numbered]
    exact houtlasts.settled_eq

/-- An attempt that is reached unhindered begins under a token that is not cancelled. -/
theorem Clear.isCancelled_onset {i : Nat} (h : script.Clear p scene i) :
    (p.onset (script.numbered request) scene i).token.isCancelled = false := by
  rw [h.token_onset]
  exact h.outlasts.isCancelled_eq_false

theorem Clear.token_nth {i : Nat} (h : script.Clear p scene i) :
    (p.nth (script.numbered request) scene i).scene.token =
      if (script.turnOf scene i).cancels then .cancelled
      else scene.token.settled (script.ends p scene i) := by
  rw [token_nth_numbered, h.token_onset]

/-- The wait after an attempt is not cut short if the token is not cancelled before the next. -/
theorem Clear.waits_iff {i : Nat} (h : script.Clear p scene i) :
    (p.nth (script.numbered request) scene i).scene.token.Outlasts
        ((p.nth (script.numbered request) scene i).scene.now + p.interval.awaited) ↔
      script.Clear p scene (i + 1) := by
  rw [clear_succ_iff, h.token_nth, now_nth_numbered]
  cases (script.turnOf scene i).cancels with
  | true => simp [Token.Outlasts]
  | false =>
    rw [if_neg Bool.false_ne_true, Token.outlasts_settled (Nat.le_add_right _ _)]
    exact ⟨fun hlater => ⟨h, rfl, hlater⟩, fun hnext => hnext.2.2⟩

theorem Clear.passes_iff {i : Nat} (h : script.Clear p scene i) :
    p.Passes (script.numbered request) scene i ↔
      conclusive (script.turnOf scene i).answer = false ∧ script.Clear p scene (i + 1) := by
  rw [← h.waits_iff request]
  have hvalue : conclusive (p.nth (script.numbered request) scene i).value =
      conclusive (script.turnOf scene i).answer := by
    rw [nth_numbered]
    exact conclusive_map _ _
  refine ⟨fun hpass => ⟨hvalue ▸ hpass.fails, hpass.waits⟩, ?_⟩
  rintro ⟨hfails, hwaits⟩
  exact ⟨h.isCancelled_onset request, hvalue.trans hfails, hwaits⟩

/-! ### Where the run stops -/

/-- A run comes to an attempt before which all fail in a way that may be repeated, if it stops
only at the first wait that is cut short. -/
theorem Reaches.le_stop {i n : Nat} (h : script.Reaches p scene i) (hclear : script.Clear p scene i)
    (hstop : p.Stops (script.numbered request) scene n) : i ≤ n :=
  hstop.ge_of_passes h.lt_cap fun j hj =>
    ((hclear.mono (Nat.le_of_lt hj)).passes_iff request).mpr ⟨h.fails j hj, hclear.mono hj⟩

/-- A run makes one call for each attempt up to the one at which it stops. -/
theorem Clear.calls_of_stops {n : Nat} (h : script.Clear p scene n)
    (hstop : p.Stops (script.numbered request) scene n) :
    (script.run p request scene).calls = script.firstCalls p scene request (n + 1) := by
  rw [run_eq, hstop.calls_run, (hstop.cases (h.isCancelled_onset request)).1, firstCalls,
    List.range_succ, List.map_append, List.map_eq_flatMap, calls_nth_numbered]
  simp only [calls_nth_numbered]
  rfl

/-- A run that is cancelled after the attempt of an index has begun, and before the next one could
begin, makes the first attempts up to that one at most. It ends with its last attempt, as
`verdict` has it, or in the wait after that attempt. -/
theorem exists_last {i : Nat} (hclear : script.Clear p scene i)
    (hnext : ¬ script.Clear p scene (i + 1)) :
    ∃ n ≤ i, p.Stops (script.numbered request) scene n ∧
      (script.run p request scene).calls = script.firstCalls p scene request (n + 1) ∧
      ((conclusive (script.turnOf scene n).answer = true ∨ n + 1 = p.cap) ∧
          (script.run p request scene).value = verdict p n (script.turnOf scene n).answer ∧
          (script.run p request scene).scene.now = script.ends p scene n ∨
        n = i ∧ conclusive (script.turnOf scene i).answer = false ∧ i + 1 ≠ p.cap ∧
          (script.run p request scene).value = .error .cancelled ∧
          (script.run p request scene).scene.now =
            (p.nth (script.numbered request) scene i).scene.token.cut (script.ends p scene i)) := by
  obtain ⟨n, hstop⟩ := exists_stop p (script.numbered request) scene
  have hle : n ≤ i :=
    hstop.le_of_not_passes fun hpass => hnext ((hclear.passes_iff request).mp hpass).2
  have hthen : script.Clear p scene n := hclear.mono hle
  obtain ⟨-, hcases⟩ := hstop.cases (hthen.isCancelled_onset request)
  have hvalue : (p.nth (script.numbered request) scene n).value =
      (script.turnOf scene n).answer.map (n + 1, ·) := by rw [nth_numbered]
  refine ⟨n, hle, hstop, hthen.calls_of_stops request hstop, ?_⟩
  rw [run_eq, run_skip hstop.lt_cap hstop.passes, Ran.after]
  dsimp only
  rw [now_nth_numbered, hvalue] at hcases
  obtain ⟨hfinal, hrun, hnow⟩ | ⟨e, he, hagain, hrest⟩ := hcases
  · rw [conclusive_map] at hfinal
    exact .inl ⟨.inl hfinal, hrun.trans (verdict_of_conclusive hfinal).symm, hnow⟩
  · have hanswer : (script.turnOf scene n).answer = .error e := by
      cases hturn : (script.turnOf scene n).answer with
      | ok reply => rw [hturn] at he; cases he
      | error other => rw [hturn] at he; exact congrArg _ (Except.error.inj he)
    obtain ⟨hcap, hrun, hnow⟩ | ⟨hlt, hrun, hnow, hcut⟩ := hrest
    · refine .inl ⟨.inr hcap, ?_, hnow⟩
      rw [hrun, hanswer, verdict, if_pos hagain, if_pos hcap]
    · -- the token outlasts all waits before the attempt `i`; only the one after it is cut short
      have hlast : n = i := by
        refine Nat.le_antisymm hle (Nat.le_of_not_lt fun hlt => hcut ?_)
        rw [← now_nth_numbered request]
        exact (hthen.waits_iff request).mpr (hclear.mono hlt)
      subst hlast
      exact .inr ⟨rfl, by rw [hanswer, conclusive, hagain]; rfl, Nat.ne_of_lt hlt, hrun, hnow⟩

/-! ### The phases -/

/-- There are no other phases: if the token is cancelled before some attempt could begin, then it
is cancelled in one of them. -/
theorem exists_struck {n : Nat}
    (hstart : scene.token = .cancelled ∨ scene.token.Outlasts scene.now)
    (h : ¬ script.Clear p scene n) : ∃ phase c, script.Struck p scene phase c := by
  induction n with
  | zero =>
    obtain htoken | houtlasts := hstart
    · exact ⟨_, _, .before htoken (Nat.le_refl _)⟩
    · exact absurd ⟨fun j hj => absurd hj (Nat.not_lt_zero j), houtlasts⟩ h
  | succ n ih =>
    -- the first attempt that is not clear tells the phase: the one before it, or the wait after that
    by_cases hclear : script.Clear p scene n
    · by_cases hends : scene.token.Outlasts (script.ends p scene n)
      · cases hturn : (script.turnOf scene n).cancels with
        | true => exact ⟨_, _, .replied hends hturn hclear.quiet⟩
        | false =>
          have hbegins : ¬ scene.token.Outlasts (script.begins p scene (n + 1)) := fun hbegins =>
            h (clear_succ_iff.mpr ⟨hclear, hturn, hbegins⟩)
          obtain ⟨c, htoken, hover, hnext⟩ := hends.eq_due hbegins
          refine ⟨_, _, .waiting htoken hover hnext fun j hj => ?_⟩
          rcases Nat.lt_or_eq_of_le hj with hlt | rfl
          · exact hclear.quiet j hlt
          · exact hturn
      · obtain ⟨c, htoken, hbegun, hover⟩ := hclear.outlasts.eq_due hends
        exact ⟨_, _, .timed htoken hbegun hover hclear.quiet⟩
    · exact ih hclear

/-- In an attempt, the token is cancelled when that ends and not when it begins. -/
theorem Struck.of_during {i : Nat} {c : Duration} (h : script.Struck p scene (.during i) c) :
    script.Clear p scene i ∧ ¬ script.Clear p scene (i + 1) ∧ script.begins p scene i ≤ c ∧
      (p.nth (script.numbered request) scene i).scene.token = .cancelled := by
  cases h with
  | timed htoken hbegun hover hquiet =>
    have hclear : script.Clear p scene i := ⟨hquiet, by rw [htoken]; exact hbegun⟩
    refine ⟨hclear, fun hnext => ?_, hbegun, ?_⟩
    · have hlate := hnext.outlasts
      rw [htoken] at hlate
      exact absurd (Nat.lt_of_lt_of_le hover (ends_le_begins_succ i)) (Nat.not_lt.mpr hlate)
    · rw [hclear.token_nth, htoken, Token.settled, if_pos hover, ite_self]
  | replied houtlasts hturn hquiet =>
    have hclear : script.Clear p scene i := ⟨hquiet, houtlasts.mono (begins_le_ends i)⟩
    refine ⟨hclear, fun hnext => ?_, begins_le_ends i, ?_⟩
    · exact absurd (hnext.quiet i i.lt_succ_self) (by simp [hturn])
    · rw [hclear.token_nth, if_pos hturn]

/-- In a wait, the token is due when the attempt before it has ended. -/
theorem Struck.of_waiting {i : Nat} {c : Duration} (h : script.Struck p scene (.waiting i) c) :
    script.Clear p scene i ∧ ¬ script.Clear p scene (i + 1) ∧ script.ends p scene i ≤ c ∧
      (p.nth (script.numbered request) scene i).scene.token = .due c := by
  cases h with
  | waiting htoken hover hnext hquiet =>
    have hclear : script.Clear p scene i :=
      ⟨fun j hj => hquiet j (Nat.le_of_lt hj), by
        rw [htoken]
        exact Nat.le_trans (begins_le_ends i) hover⟩
    refine ⟨hclear, fun hlater => ?_, hover, ?_⟩
    · have hlate := hlater.outlasts
      rw [htoken] at hlate
      exact absurd hnext (Nat.not_lt.mpr hlate)
    · rw [hclear.token_nth, hquiet i (Nat.le_refl i), if_neg Bool.false_ne_true, htoken,
        Token.settled, if_neg (Nat.not_lt.mpr hover)]

/-! ### What becomes of the run -/

/-- The first calls of a run are made when their attempts begin. -/
private theorem instant_le_of_mem_firstCalls {n i : Nat} {c : Duration} (hle : n ≤ i)
    (hbegun : script.begins p scene i ≤ c) :
    ∀ call ∈ script.firstCalls p scene request (n + 1), call.instant ≤ c := by
  intro call hcall
  obtain ⟨j, hj, rfl⟩ := List.mem_map.mp hcall
  have hji : j ≤ i := Nat.le_trans (Nat.lt_succ_iff.mp (List.mem_range.mp hj)) hle
  exact Nat.le_trans (begins_mono hji) hbegun

/-- A run that is cancelled before it makes no attempt. -/
private theorem run_of_cancelled (h : scene.token = .cancelled) :
    script.run p request scene =
      ⟨.error .cancelled, scene, [.logged (.cancelledBefore 1) none]⟩ := by
  have honset : (p.onset (script.numbered request) scene 0).token.isCancelled = true := by
    rw [onset, h]
    rfl
  rw [run_eq, run_skip p.cap_pos fun i hi => absurd hi (Nat.not_lt_zero i),
    stop_of_cancelled honset]
  rfl

/-- A run that is cancelled in an attempt is over with that attempt, or with one before it. -/
theorem Struck.end_of_during {i : Nat} {c : Duration} (h : script.Struck p scene (.during i) c) :
    ∃ n ≤ i, (script.Reaches p scene i → n = i) ∧
      (script.run p request scene).calls = script.firstCalls p scene request (n + 1) ∧
      (script.run p request scene).value = verdict p n (script.turnOf scene n).answer ∧
      (script.run p request scene).scene.now = script.ends p scene n := by
  obtain ⟨hclear, hnext, -, htoken⟩ := h.of_during request
  obtain ⟨n, hle, hstop, hcalls, hlast⟩ := exists_last request hclear hnext
  refine ⟨n, hle, fun hreaches => ?_, hcalls, ?_⟩
  · exact Nat.le_antisymm hle (hreaches.le_stop request hclear hstop)
  · obtain ⟨-, hend⟩ | ⟨rfl, hfails, hcap, hvalue, hnow⟩ := hlast
    · exact hend
    · -- the wait after the attempt `i` is cut short as soon as it begins
      rw [htoken] at hnow
      exact ⟨hvalue.trans (verdict_of_not_conclusive hfails hcap).symm, hnow⟩

/-- A run that is cancelled in a wait is over at that instant, or before. -/
theorem Struck.end_of_waiting {i : Nat} {c : Duration}
    (h : script.Struck p scene (.waiting i) c) :
    ∃ n ≤ i, (script.run p request scene).calls = script.firstCalls p scene request (n + 1) ∧
      (script.run p request scene).scene.now ≤ c ∧
      (script.Reaches p scene (i + 1) → n = i ∧
        (script.run p request scene).value = .error .cancelled ∧
        (script.run p request scene).scene.now = c) := by
  obtain ⟨hclear, hnext, hended, htoken⟩ := h.of_waiting request
  obtain ⟨n, hle, hstop, hcalls, hlast⟩ := exists_last request hclear hnext
  rw [htoken, Token.cut, Nat.max_eq_right hended] at hlast
  refine ⟨n, hle, hcalls, ?_, fun hreaches => ?_⟩
  · obtain ⟨-, -, hnow⟩ | ⟨-, -, -, -, hnow⟩ := hlast
    · rw [hnow]
      exact Nat.le_trans (ends_mono hle) hended
    · exact Nat.le_of_eq hnow
  · have hbefore : script.Reaches p scene i := hreaches.mono i.le_succ
    obtain rfl : n = i := Nat.le_antisymm hle (hbefore.le_stop request hclear hstop)
    -- the run comes to the wait, so the attempt before it did not end the run
    obtain ⟨hfinal | hcap, -⟩ | ⟨-, -, -, hvalue, hnow⟩ := hlast
    · exact absurd hfinal (by simp [hreaches.fails n n.lt_succ_self])
    · exact absurd hcap (Nat.ne_of_lt hreaches.lt_cap)
    · exact ⟨rfl, hvalue, hnow⟩

/-- **Cancellation is prompt and final.** Whatever the phase in which the token of a run is
cancelled, at an instant `c`, no call is made after `c`, and the run is over by `c`, or when it
begins if that is later, or at the end of the attempt that is under way at `c`. Before a run, its
outcome is `cancelled` with no call. In a wait that the run comes to, the outcome is `cancelled`
at `c`. In an attempt that the run comes to, the outcome is the verdict on that attempt, at its
end. -/
theorem run_struck {phase : Phase} {c : Duration} (h : script.Struck p scene phase c) :
    (∀ call ∈ (script.run p request scene).calls, call.instant ≤ c) ∧
      ((script.run p request scene).scene.now ≤ max c scene.now ∨
        ∃ i, phase = .during i ∧
          (script.run p request scene).calls = script.firstCalls p scene request (i + 1) ∧
          (script.run p request scene).scene.now = script.ends p scene i) ∧
      (phase = .before →
        (script.run p request scene).value = .error .cancelled ∧
          (script.run p request scene).calls = []) ∧
      (∀ i, phase = .waiting i → script.Reaches p scene (i + 1) →
        (script.run p request scene).value = .error .cancelled ∧
          (script.run p request scene).scene.now = c ∧
          (script.run p request scene).calls = script.firstCalls p scene request (i + 1)) ∧
      (∀ i, phase = .during i → script.Reaches p scene i →
        (script.run p request scene).value = verdict p i (script.turnOf scene i).answer ∧
          (script.run p request scene).scene.now = script.ends p scene i ∧
          (script.run p request scene).calls = script.firstCalls p scene request (i + 1)) := by
  cases phase with
  | before =>
    obtain ⟨htoken, hle⟩ := h
    rw [run_of_cancelled request htoken]
    exact ⟨fun call hcall => absurd hcall List.not_mem_nil, .inl (Nat.le_max_right _ _),
      fun _ => ⟨rfl, rfl⟩, nofun, nofun⟩
  | during i =>
    obtain ⟨-, -, hbegun, -⟩ := h.of_during request
    obtain ⟨n, hle, hlast, hcalls, hvalue, hnow⟩ := h.end_of_during request
    refine ⟨?_, ?_, nofun, nofun, ?_⟩
    · rw [hcalls]
      exact instant_le_of_mem_firstCalls request hle hbegun
    · -- a run that ends with an earlier attempt is over before the attempt `i` could begin
      rcases Nat.lt_or_eq_of_le hle with hlt | rfl
      · refine .inl (Nat.le_trans ?_ (Nat.le_max_left _ _))
        rw [hnow]
        exact Nat.le_trans (ends_le_begins_succ n) (Nat.le_trans (begins_mono hlt) hbegun)
      · exact .inr ⟨n, rfl, hcalls, hnow⟩
    · rintro _ ⟨⟩ hreaches
      obtain rfl := hlast hreaches
      exact ⟨hvalue, hnow, hcalls⟩
  | waiting i =>
    obtain ⟨-, -, hended, -⟩ := h.of_waiting request
    obtain ⟨n, hle, hcalls, hnow, hlast⟩ := h.end_of_waiting request
    refine ⟨?_, .inl (Nat.le_trans hnow (Nat.le_max_left _ _)), nofun, ?_, nofun⟩
    · rw [hcalls]
      exact instant_le_of_mem_firstCalls request hle (Nat.le_trans (begins_le_ends i) hended)
    · rintro _ ⟨⟩ hreaches
      obtain ⟨rfl, hvalue, hat⟩ := hlast hreaches
      exact ⟨hvalue, hat, hcalls⟩

/-- Attempts that fail after 10 ms, two seconds apart. A token that is due after one second ends
the wait after the first, and one that is due 5 ms later than the last begins leaves the attempts
exhausted. -/
theorem run_struck_second :
    let script : Script := fun _ => ⟨Duration.ofMillis 10, false, .error (.transport .timeout)⟩
    let p : Policy := ⟨.ofSecs 2, 2⟩
    let scene (c : Duration) : Scene (World Positions) := ⟨0, .due c, .live, ⟨none, .start⟩⟩
    let waiting := script.run p (.plain "d" "new") (scene (.ofSecs 1))
    let during := script.run p (.plain "d" "new") (scene (.ofMillis 2015))
    script.Struck p (scene (.ofSecs 1)) (.waiting 0) (.ofSecs 1) ∧
      waiting.value = .error .cancelled ∧ waiting.scene.now = Duration.ofSecs 1 ∧
      script.Struck p (scene (.ofMillis 2015)) (.during 1) (.ofMillis 2015) ∧
      during.value = .error (.exhausted 2 (.transport .timeout)) ∧
      during.scene.now = Duration.ofMillis 2020 := by
  intro script p scene waiting during
  have hwaiting : script.Struck p (scene (.ofSecs 1)) (.waiting 0) (.ofSecs 1) :=
    .waiting rfl (by decide) (by decide) fun _ _ => rfl
  have hduring : script.Struck p (scene (.ofMillis 2015)) (.during 1) (.ofMillis 2015) :=
    .timed rfl (by decide) (by decide) fun _ _ => rfl
  obtain ⟨_, _, _, hwait, _⟩ := run_struck (.plain "d" "new") hwaiting
  obtain ⟨_, _, _, _, hlast⟩ := run_struck (.plain "d" "new") hduring
  obtain ⟨hcancelled, hprompt, _⟩ := hwait 0 rfl ⟨by decide, fun _ _ => rfl⟩
  obtain ⟨hverdict, hend, _⟩ := hlast 1 rfl ⟨by decide, fun _ _ => rfl⟩
  exact ⟨hwaiting, hcancelled, hprompt, hduring, hverdict, hend.trans (by decide)⟩

end Script

end Deployer
