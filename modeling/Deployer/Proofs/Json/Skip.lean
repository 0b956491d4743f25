import Deployer.Proofs.Json.Value

/-!
# Passing over a value

What passes over a value takes brackets and separators apart on its own and decodes nothing. If the
value can be read, then it is passed over, and both leave the same bytes (`skip_of_read`). The converse
fails: what passes over a value does not look at surrogates, at the range of numbers, or at the depth.

The two recursions use their fuel in step, one unit for each value, item or member, so the statements
about the three readers are proved together, by induction on the fuel (`Passes`).
-/

namespace Deployer.Json

variable {s r rest : Bytes} {fuel depth : Nat} {first : Bool} {v : Value}

/-- Blanks before a value do not matter. -/
theorem skipValue_of_skipBlanks (h : skipValue fuel (skipBlanks s) = .ok rest) :
    skipValue fuel s = .ok rest := by
  cases fuel with
  | zero => nomatch h
  | succ fuel =>
    rw [← h, skipValue, skipValue, skipBlanks_skipBlanks]

/-- What is read with some fuel is passed over with the same fuel. -/
structure Passes (fuel : Nat) : Prop where
  value : ∀ {depth : Nat} {s : Bytes} {v : Value} {rest : Bytes},
    readValue fuel depth s = .ok (v, rest) → skipValue fuel s = .ok rest
  items : ∀ {depth : Nat} {first : Bool} {s : Bytes} {vs : List Value} {rest : Bytes},
    readItems fuel depth first s = .ok (vs, rest) → skipItems fuel first s = .ok rest
  members : ∀ {depth : Nat} {first : Bool} {ms ms' : List (String × Value)} {s rest : Bytes},
    readMembers fuel depth first ms s = .ok (ms', rest) → skipMembers fuel first s = .ok rest

theorem passes_zero : Passes 0 where
  value h := nomatch h
  items h := nomatch h
  members h := nomatch h

/-- Both functions take a key and its colon in the same way. -/
theorem skipKey_of_read {key : String} {u r₁ : Bytes} (hs : skipBlanks s = byte '"' :: u)
    (hkey : readString u = .ok (key, r)) (hcolon : readColon r = .ok r₁) :
    skipKey s = .ok r₁ := by
  simp only [skipKey, hs, if_true, (skipString_of_read hkey).1]
  exact hcolon

theorem Passes.succ (ih : Passes fuel) : Passes (fuel + 1) where
  value {depth s v rest} h := by
    obtain ⟨b, r, hs, hopens⟩ := readValue_eq_ok_iff.mp h
    cases hopens with
    | null hb h => simp only [skipValue, hs, hb, h]
    | true hb h => simp only [skipValue, hs, hb, h]
    | false hb h => simp only [skipValue, hs, hb, h]
    | number hb h => simp only [skipValue, hs, hb, (skipNumber_of_read h).1]
    | string hb h => simp only [skipValue, hs, hb, (skipString_of_read h).1]
    | array hb h => simp only [skipValue, hs, hb, ih.items h]
    | object hb h => simp only [skipValue, hs, hb, ih.members h]
  items {depth first s vs rest} h := by
    rcases readItems_eq_ok_iff.mp h with ⟨r, hnext, rfl, rfl⟩ | ⟨r, v, r', vs', hnext, hv, hvs, rfl⟩
    · obtain ⟨t, hs, rfl⟩ := skipBlanks_of_nextItem_false hnext
      simp only [skipItems, hs, if_true, List.drop_succ_cons, List.drop_zero]
    · obtain ⟨b, t, hs, hb, hcases⟩ := skipBlanks_of_nextItem_true hnext
      have hvalue := ih.value hv
      -- behind a comma there may be more blanks
      rcases hcases with ⟨rfl, rfl⟩ | ⟨rfl, rfl, rfl⟩
      · simp [skipItems, hs, hb, hvalue, ih.items hvs]
      · simp [skipItems, hs, hb, skipValue_of_skipBlanks hvalue, ih.items hvs]
  members {depth first ms ms' s rest} h := by
    rcases readMembers_eq_ok_iff.mp h with
      ⟨r, hnext, rfl, rfl⟩ | ⟨r, key, r₁, v, r₂, hnext, hcolon, hv, hms⟩
    · obtain ⟨t, hs, rfl⟩ := skipBlanks_of_nextKey_none hnext
      simp only [skipMembers, hs, if_true, List.drop_succ_cons, List.drop_zero]
    · obtain ⟨b, t, u, hs, hb, hkey, hcases⟩ := skipBlanks_of_nextKey_some hnext
      have hvalue := ih.value hv
      rcases hcases with ⟨rfl, hquote⟩ | ⟨rfl, rfl, hquote⟩
      · have hskip := skipKey_of_read ((skipBlanks_of_eq_cons hs).trans hquote) hkey hcolon
        simp [skipMembers, hs, hb, hskip, hvalue, ih.members hms]
      · have hskip := skipKey_of_read hquote hkey hcolon
        simp [skipMembers, hs, hb, hskip, hvalue, ih.members hms]

private theorem passes (fuel : Nat) : Passes fuel := by
  induction fuel with
  | zero => exact passes_zero
  | succ fuel ih => exact ih.succ

/-- A value that can be read is passed over. -/
theorem skip_of_read (h : Value.read depth s = .ok (v, rest)) : skip s = .ok rest :=
  (passes _).value h

end Deployer.Json
