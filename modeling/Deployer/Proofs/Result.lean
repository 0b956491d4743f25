/-!
# Results

When a step of a computation that may be refused gives a value, what remains of it if the words of the
refusal are forgotten, and what the results for the elements of a list are.

Functions that are refused in the same cases, but in other words or in another order of their tests, agree
as options: `Except.toOption` forgets the words, and goes through the steps of a computation one by one.
-/

namespace Deployer

variable {ε ε' α β : Type} {x : Except ε α} {a : α} {b : β}

/-! ### Values -/

theorem map_eq_ok {f : α → β} : x.map f = .ok b ↔ ∃ a, x = .ok a ∧ f a = b := by
  cases x <;> simp [Except.map]

theorem bind_eq_ok {f : α → Except ε β} : x >>= f = .ok b ↔ ∃ a, x = .ok a ∧ f a = .ok b := by
  cases x <;> simp [bind, Except.bind]

theorem mapError_eq_ok {f : ε → ε'} : x.mapError f = .ok a ↔ x = .ok a := by
  refine ⟨fun h => ?_, fun h => by rw [h]; rfl⟩
  cases x with
  | error e => cases h
  | ok b =>
    cases h
    rfl

/-! ### Results as options -/

@[simp] theorem toOption_ok (a : α) : (Except.ok a : Except ε α).toOption = some a := rfl

@[simp] theorem toOption_error (e : ε) : (Except.error e : Except ε α).toOption = none := rfl

theorem toOption_map (x : Except ε α) (f : α → β) : (x.map f).toOption = x.toOption.map f := by
  cases x <;> rfl

theorem toOption_mapError (x : Except ε α) (f : ε → ε') :
    (x.mapError f).toOption = x.toOption := by
  cases x <;> rfl

theorem toOption_bind (x : Except ε α) (f : α → Except ε β) :
    (x >>= f).toOption = x.toOption.bind fun a => (f a).toOption := by
  cases x <;> rfl

theorem toOption_eq_some : x.toOption = some a ↔ x = .ok a := by
  cases x <;> simp

theorem toOption_eq_none : x.toOption = none ↔ ∃ e, x = .error e := by
  cases x <;> simp

/-! ### Results for the elements of a list -/

/-- If every element of a list has a result, they are all among the results. -/
theorem exists_mem_of_mapM {f : α → Option β} {xs : List α} {ys : List β}
    (h : xs.mapM f = some ys) (ha : a ∈ xs) : ∃ b ∈ ys, f a = some b := by
  induction xs generalizing ys with
  | nil => cases ha
  | cons x xs ih =>
    simp only [List.mapM_cons, Option.pure_def, Option.bind_eq_bind, Option.bind_eq_some_iff,
      Option.some.injEq] at h
    obtain ⟨y, hy, ys, hys, rfl⟩ := h
    rcases List.mem_cons.mp ha with rfl | ha
    · exact ⟨y, List.mem_cons_self, hy⟩
    · obtain ⟨b, hb, hfb⟩ := ih hys ha
      exact ⟨b, List.mem_cons_of_mem _ hb, hfb⟩

/-- If every element of a list has a result, there are no other results. -/
theorem exists_of_mem_mapM {f : α → Option β} {xs : List α} {ys : List β}
    (h : xs.mapM f = some ys) (hb : b ∈ ys) : ∃ a ∈ xs, f a = some b := by
  induction xs generalizing ys with
  | nil =>
    cases h
    cases hb
  | cons x xs ih =>
    simp only [List.mapM_cons, Option.pure_def, Option.bind_eq_bind, Option.bind_eq_some_iff,
      Option.some.injEq] at h
    obtain ⟨y, hy, ys, hys, rfl⟩ := h
    rcases List.mem_cons.mp hb with rfl | hb
    · exact ⟨x, List.mem_cons_self, hy⟩
    · obtain ⟨a, ha, hfa⟩ := ih hys hb
      exact ⟨a, List.mem_cons_of_mem _ ha, hfa⟩

/-- If an element of a list has no result, the list has none. -/
theorem mapM_eq_none {f : α → Option β} {xs : List α} (ha : a ∈ xs) (h : f a = none) :
    xs.mapM f = none := by
  rw [Option.eq_none_iff_forall_ne_some]
  intro ys hys
  obtain ⟨b, -, hb⟩ := exists_mem_of_mapM hys ha
  cases h.symm.trans hb

/-- If every element of a list has a result, the list has the list of these. -/
theorem mapM_eq_some {f : α → Option β} {g : α → β} {xs : List α} (h : ∀ a ∈ xs, f a = some (g a)) :
    xs.mapM f = some (xs.map g) := by
  induction xs with
  | nil => rfl
  | cons x xs ih =>
    obtain ⟨hx, hxs⟩ := List.forall_mem_cons.mp h
    rw [List.mapM_cons, hx, ih hxs]
    rfl

/-- If every element is the result for what is made of it, then the list is too. -/
theorem mapM_map_eq_some {f : α → Option β} {g : β → α} {ys : List β}
    (h : ∀ b ∈ ys, f (g b) = some b) : (ys.map g).mapM f = some ys := by
  have hread : ys.mapM (f ∘ g) = some (ys.map id) := mapM_eq_some h
  rw [List.mapM_map, hread, List.map_id]

end Deployer
