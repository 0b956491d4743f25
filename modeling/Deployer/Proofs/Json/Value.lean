import Deployer.Proofs.Json.Lexeme

/-!
# Reading a value, without the bounds

`readValue` is bounded by a fuel that only makes its recursion structural. A value that is read at all
is read with any fuel that is twice the number of bytes that it takes (`steady`), so `Value.read` has a
description that does not mention fuel: `Opens` says what a value is read as by its first byte, and
`Items` and `Entries` what stands between the brackets of an array and of an object. `Entries` are the
members of an object as they are written, in their order and with repeated keys; the value keeps them
`collapsed`.
-/

namespace Deployer.Json

variable {s r rest : Bytes} {fuel depth : Nat} {first : Bool} {v : Value}

/-! ### Separators -/

/-- The bracket that ends an array is the next byte that is not blank. -/
theorem skipBlanks_of_nextItem_false (h : nextItem first s = .ok (false, r)) :
    ∃ t, skipBlanks s = byte ']' :: t ∧ r = byte ']' :: t := by
  unfold nextItem at h
  split at h
  next => cases h
  next b t hs =>
    split at h
    next hb =>
      cases h
      exact ⟨t, hb ▸ hs, by rw [hb]⟩
    next =>
      split at h
      next => cases h
      next =>
        split at h
        next =>
          split at h
          next => cases h
          next => split at h <;> cases h
        next => cases h

/-- An item comes first, or after a comma. -/
theorem skipBlanks_of_nextItem_true (h : nextItem first s = .ok (true, r)) :
    ∃ b t, skipBlanks s = b :: t ∧ b ≠ byte ']' ∧
      ((first = true ∧ r = b :: t) ∨ (first = false ∧ b = byte ',' ∧ r = skipBlanks t)) := by
  unfold nextItem at h
  split at h
  next => cases h
  next b t hs =>
    split at h
    next => cases h
    next hb =>
      refine ⟨b, t, hs, hb, ?_⟩
      split at h
      next hfirst =>
        cases h
        exact .inl ⟨hfirst, rfl⟩
      next hfirst =>
        split at h
        next hcomma =>
          split at h
          next => cases h
          next c u hu =>
            split at h
            next => cases h
            next =>
              cases h
              exact .inr ⟨Bool.not_eq_true _ |>.mp hfirst, hcomma, hu.symm⟩
        next => cases h

/-- The bracket that ends an object is the next byte that is not blank. -/
theorem skipBlanks_of_nextKey_none (h : nextKey first s = .ok (none, r)) :
    ∃ t, skipBlanks s = byte '\x7d' :: t ∧ r = byte '\x7d' :: t := by
  unfold nextKey at h
  split at h
  next => cases h
  next b t hs =>
    split at h
    next hb =>
      cases h
      exact ⟨t, hb ▸ hs, by rw [hb]⟩
    next => grind [refuseAt]

/-- A key comes first, or after a comma. -/
theorem skipBlanks_of_nextKey_some {key : String} (h : nextKey first s = .ok (some key, r)) :
    ∃ b t u, skipBlanks s = b :: t ∧ b ≠ byte '\x7d' ∧ readString u = .ok (key, r) ∧
      ((first = true ∧ b :: t = byte '"' :: u) ∨
        (first = false ∧ b = byte ',' ∧ skipBlanks t = byte '"' :: u)) := by
  unfold nextKey at h
  split at h
  next => cases h
  next b t hs =>
    split at h
    next => cases h
    next hb => grind [refuseAt]

theorem skipBlanks_of_readColon (h : readColon s = .ok r) : skipBlanks s = byte ':' :: r := by
  unfold readColon at h
  split at h
  next => cases h
  next b t hs =>
    split at h
    next hb =>
      cases h
      rw [hs, hb]
    next => cases h

/-! ### One step -/

/-- What a value is read as whose first byte is `b`: a word, a number or a string, or what `items` or
`members` reads between brackets. -/
inductive Opens (items : (depth : Nat) → Reader (List Value))
    (members : (depth : Nat) → Reader (List (String × Value))) (b : UInt8) (r : Bytes) :
    (depth : Nat) → Value → Bytes → Prop
  | null {depth : Nat} {rest : Bytes} (hb : Start.of b = .null)
    (h : readWord ['u', 'l', 'l'] r = .ok rest) : Opens items members b r depth .null rest
  | true {depth : Nat} {rest : Bytes} (hb : Start.of b = .true)
    (h : readWord ['r', 'u', 'e'] r = .ok rest) : Opens items members b r depth (.bool true) rest
  | false {depth : Nat} {rest : Bytes} (hb : Start.of b = .false)
    (h : readWord ['a', 'l', 's', 'e'] r = .ok rest) :
    Opens items members b r depth (.bool false) rest
  | number {depth : Nat} {n : Number} {rest : Bytes} (hb : Start.of b = .number)
    (h : readNumber (b :: r) = .ok (n, rest)) : Opens items members b r depth (.number n) rest
  | string {depth : Nat} {text : String} {rest : Bytes} (hb : Start.of b = .string)
    (h : readString r = .ok (text, rest)) : Opens items members b r depth (.string text) rest
  | array {depth : Nat} {vs : List Value} {rest : Bytes} (hb : Start.of b = .array)
    (h : items depth r = .ok (vs, rest)) : Opens items members b r (depth + 1) (.array vs) rest
  | object {depth : Nat} {ms : List (String × Value)} {rest : Bytes} (hb : Start.of b = .object)
    (h : members depth r = .ok (ms, rest)) : Opens items members b r (depth + 1) (.object ms) rest

theorem readValue_eq_ok_iff :
    readValue (fuel + 1) depth s = .ok (v, rest) ↔ ∃ b r, skipBlanks s = b :: r ∧
      Opens (readItems fuel · true) (readMembers fuel · true []) b r depth v rest := by
  constructor
  · intro h
    unfold readValue at h
    split at h
    next => cases h
    next b r hs =>
      refine ⟨b, r, hs, ?_⟩
      -- one case for each first byte
      split at h
      next hb =>
        obtain ⟨_, hword, heq⟩ := map_eq_ok.mp h
        cases heq
        exact .null hb hword
      next hb =>
        obtain ⟨_, hword, heq⟩ := map_eq_ok.mp h
        cases heq
        exact .true hb hword
      next hb =>
        obtain ⟨_, hword, heq⟩ := map_eq_ok.mp h
        cases heq
        exact .false hb hword
      next hb =>
        obtain ⟨_, hnumber, heq⟩ := map_eq_ok.mp h
        cases heq
        exact .number hb hnumber
      next hb =>
        obtain ⟨_, hstring, heq⟩ := map_eq_ok.mp h
        cases heq
        exact .string hb hstring
      next hb =>
        cases depth with
        | zero => cases h
        | succ depth =>
          obtain ⟨_, hitems, heq⟩ := map_eq_ok.mp h
          cases heq
          exact .array hb hitems
      next hb =>
        cases depth with
        | zero => cases h
        | succ depth =>
          obtain ⟨_, hmembers, heq⟩ := map_eq_ok.mp h
          cases heq
          exact .object hb hmembers
      next => cases h
  · rintro ⟨b, r, hs, hopens⟩
    cases hopens <;> rename_i hb h <;> simp only [readValue, hs, hb, h] <;> rfl

theorem readItems_eq_ok_iff {vs : List Value} :
    readItems (fuel + 1) depth first s = .ok (vs, rest) ↔
      (∃ r, nextItem first s = .ok (false, r) ∧ vs = [] ∧ rest = r.drop 1) ∨
      ∃ r v r' vs', nextItem first s = .ok (true, r) ∧ readValue fuel depth r = .ok (v, r') ∧
        readItems fuel depth false r' = .ok (vs', rest) ∧ vs = v :: vs' := by
  constructor
  · intro h
    unfold readItems at h
    split at h
    next => cases h
    next r hnext =>
      cases h
      exact .inl ⟨r, hnext, rfl, rfl⟩
    next r hnext =>
      split at h
      next => cases h
      next v r' hv =>
        obtain ⟨⟨vs', _⟩, hvs, heq⟩ := map_eq_ok.mp h
        cases heq
        exact .inr ⟨r, v, r', vs', hnext, hv, hvs, rfl⟩
  · rintro (⟨r, hnext, rfl, rfl⟩ | ⟨r, v, r', vs', hnext, hv, hvs, rfl⟩)
    · simp only [readItems, hnext]
    · simp only [readItems, hnext, hv, hvs]
      rfl

theorem readMembers_eq_ok_iff {ms ms' : List (String × Value)} :
    readMembers (fuel + 1) depth first ms s = .ok (ms', rest) ↔
      (∃ r, nextKey first s = .ok (none, r) ∧ ms' = ms ∧ rest = r.drop 1) ∨
      ∃ r key r₁ v r₂, nextKey first s = .ok (some key, r) ∧ readColon r = .ok r₁ ∧
        readValue fuel depth r₁ = .ok (v, r₂) ∧
        readMembers fuel depth false (insertMember key v ms) r₂ = .ok (ms', rest) := by
  constructor
  · intro h
    unfold readMembers at h
    split at h
    next => cases h
    next r hnext =>
      cases h
      exact .inl ⟨r, hnext, rfl, rfl⟩
    next key r hnext =>
      split at h
      next => cases h
      next r₁ hcolon =>
        split at h
        next => cases h
        next v r₂ hv => exact .inr ⟨r, key, r₁, v, r₂, hnext, hcolon, hv, h⟩
  · rintro (⟨r, hnext, rfl, rfl⟩ | ⟨r, key, r₁, v, r₂, hnext, hcolon, hv, hms⟩)
    · simp only [readMembers, hnext]
    · simp only [readMembers, hnext, hcolon, hv, hms]

/-! ### Fuel -/

/-- What a reader with fuel takes: at least one byte, and the same with any fuel that is twice the
number of bytes that it takes. -/
structure Finishes {α : Type} (read : (fuel : Nat) → Reader α) (s : Bytes) (a : α) (rest : Bytes) :
    Prop where
  shorter : rest.length < s.length
  read_of_le : ∀ fuel, 2 * (s.length - rest.length) ≤ fuel → read fuel s = .ok (a, rest)

private theorem length_lt_of_nextItem_false (h : nextItem first s = .ok (false, r)) :
    (r.drop 1).length < s.length := by
  obtain ⟨t, hs, rfl⟩ := skipBlanks_of_nextItem_false h
  exact length_lt_of_skipBlanks hs

private theorem length_le_of_nextItem_true (h : nextItem first s = .ok (true, r)) :
    r.length ≤ s.length := by
  obtain ⟨b, t, hs, -, ⟨-, rfl⟩ | ⟨-, -, rfl⟩⟩ := skipBlanks_of_nextItem_true h
  · exact length_lt_of_skipBlanks hs
  · exact Nat.le_trans (length_skipBlanks_le t) (Nat.le_of_lt (length_lt_of_skipBlanks hs))

theorem length_lt_of_nextKey_none (h : nextKey first s = .ok (none, r)) :
    (r.drop 1).length < s.length := by
  obtain ⟨t, hs, rfl⟩ := skipBlanks_of_nextKey_none h
  exact length_lt_of_skipBlanks hs

theorem length_lt_of_nextKey_some {key : String} (h : nextKey first s = .ok (some key, r)) :
    r.length < s.length := by
  obtain ⟨b, t, u, hs, -, hkey, hcases⟩ := skipBlanks_of_nextKey_some h
  have hu : u.length < s.length := by
    rcases hcases with ⟨-, hquote⟩ | ⟨-, -, hquote⟩
    · exact length_lt_of_skipBlanks (hs.trans hquote)
    · exact Nat.lt_trans (length_lt_of_skipBlanks hquote) (length_lt_of_skipBlanks hs)
  exact Nat.lt_trans (skipString_of_read hkey).2 hu

/-- Everything that is read with some fuel is `Finishes`. -/
structure Steady (fuel : Nat) : Prop where
  value : ∀ {depth : Nat} {s : Bytes} {v : Value} {rest : Bytes},
    readValue fuel depth s = .ok (v, rest) → Finishes (readValue · depth) s v rest
  items : ∀ {depth : Nat} {first : Bool} {s : Bytes} {vs : List Value} {rest : Bytes},
    readItems fuel depth first s = .ok (vs, rest) → Finishes (readItems · depth first) s vs rest
  members : ∀ {depth : Nat} {first : Bool} {ms ms' : List (String × Value)} {s rest : Bytes},
    readMembers fuel depth first ms s = .ok (ms', rest) →
      Finishes (readMembers · depth first ms) s ms' rest

section

variable {items items' : Nat → Reader (List Value)} {members : Nat → Reader (List (String × Value))}
  {members' : Nat → Reader (List (String × Value))} {b : UInt8}

theorem Opens.imp (h : Opens items members b r depth v rest)
    (hitems : ∀ depth vs, items depth r = .ok (vs, rest) → items' depth r = .ok (vs, rest))
    (hmembers : ∀ depth ms, members depth r = .ok (ms, rest) → members' depth r = .ok (ms, rest)) :
    Opens items' members' b r depth v rest := by
  cases h with
  | null hb h => exact .null hb h
  | true hb h => exact .true hb h
  | false hb h => exact .false hb h
  | number hb h => exact .number hb h
  | string hb h => exact .string hb h
  | array hb h => exact .array hb (hitems _ _ h)
  | object hb h => exact .object hb (hmembers _ _ h)

/-- The first byte of a value is taken. -/
theorem Opens.length_le (h : Opens items members b r depth v rest)
    (hitems : ∀ depth vs, items depth r = .ok (vs, rest) → rest.length < r.length)
    (hmembers : ∀ depth ms, members depth r = .ok (ms, rest) → rest.length < r.length) :
    rest.length ≤ r.length := by
  cases h with
  | null hb h => exact length_le_of_readWord h
  | true hb h => exact length_le_of_readWord h
  | false hb h => exact length_le_of_readWord h
  | number hb h => exact Nat.le_of_lt_succ (skipNumber_of_read h).2
  | string hb h => exact Nat.le_of_lt (skipString_of_read h).2
  | array hb h => exact Nat.le_of_lt (hitems _ _ h)
  | object hb h => exact Nat.le_of_lt (hmembers _ _ h)

end

theorem steady_zero : Steady 0 where
  value h := nomatch h
  items h := nomatch h
  members h := nomatch h

/-- A step of reading takes one unit of fuel and at least one byte. What is read within it takes fewer
bytes, so it is left with enough fuel. -/
theorem Steady.succ (ih : Steady fuel) : Steady (fuel + 1) where
  value {depth s v rest} h := by
    obtain ⟨b, r, hs, hopens⟩ := readValue_eq_ok_iff.mp h
    have hr := length_lt_of_skipBlanks hs
    have hle : rest.length ≤ r.length :=
      hopens.length_le (fun _ _ h => (ih.items h).shorter) fun _ _ h => (ih.members h).shorter
    refine ⟨Nat.lt_of_le_of_lt hle hr, fun fuel' hfuel => ?_⟩
    obtain ⟨fuel', rfl⟩ : ∃ n, fuel' = n + 1 := ⟨fuel' - 1, by omega⟩
    have henough : 2 * (r.length - rest.length) ≤ fuel' := by omega
    exact readValue_eq_ok_iff.mpr ⟨b, r, hs, hopens.imp
      (fun _ _ h => (ih.items h).read_of_le fuel' henough)
      fun _ _ h => (ih.members h).read_of_le fuel' henough⟩
  items {depth first s vs rest} h := by
    rcases readItems_eq_ok_iff.mp h with ⟨r, hnext, rfl, rfl⟩ | ⟨r, v, r', vs', hnext, hv, hvs, rfl⟩
    · have hlt := length_lt_of_nextItem_false hnext
      refine ⟨hlt, fun fuel' hfuel => ?_⟩
      obtain ⟨fuel', rfl⟩ : ∃ n, fuel' = n + 1 := ⟨fuel' - 1, by omega⟩
      exact readItems_eq_ok_iff.mpr (.inl ⟨r, hnext, rfl, rfl⟩)
    · have hle := length_le_of_nextItem_true hnext
      obtain ⟨hlt, hread⟩ := ih.value hv
      obtain ⟨hlt', hread'⟩ := ih.items hvs
      -- the two readings share the bytes that are taken, so there is fuel for each
      refine ⟨by omega, fun fuel' hfuel => ?_⟩
      obtain ⟨fuel', rfl⟩ : ∃ n, fuel' = n + 1 := ⟨fuel' - 1, by omega⟩
      exact readItems_eq_ok_iff.mpr (.inr ⟨r, v, r', vs', hnext, hread fuel' (by omega),
        hread' fuel' (by omega), rfl⟩)
  members {depth first ms ms' s rest} h := by
    rcases readMembers_eq_ok_iff.mp h with
      ⟨r, hnext, rfl, rfl⟩ | ⟨r, key, r₁, v, r₂, hnext, hcolon, hv, hms⟩
    · have hlt := length_lt_of_nextKey_none hnext
      refine ⟨hlt, fun fuel' hfuel => ?_⟩
      obtain ⟨fuel', rfl⟩ : ∃ n, fuel' = n + 1 := ⟨fuel' - 1, by omega⟩
      exact readMembers_eq_ok_iff.mpr (.inl ⟨r, hnext, rfl, rfl⟩)
    · have hlt := length_lt_of_nextKey_some hnext
      have hlt₁ := length_lt_of_skipBlanks (skipBlanks_of_readColon hcolon)
      obtain ⟨hlt₂, hread⟩ := ih.value hv
      obtain ⟨hlt₃, hread'⟩ := ih.members hms
      refine ⟨by omega, fun fuel' hfuel => ?_⟩
      obtain ⟨fuel', rfl⟩ : ∃ n, fuel' = n + 1 := ⟨fuel' - 1, by omega⟩
      exact readMembers_eq_ok_iff.mpr (.inr ⟨r, key, r₁, v, r₂, hnext, hcolon,
        hread fuel' (by omega), hread' fuel' (by omega)⟩)

theorem steady (fuel : Nat) : Steady fuel := by
  induction fuel with
  | zero => exact steady_zero
  | succ fuel ih => exact ih.succ

/-- A value that is read with some fuel is read with the fuel that is supplied. -/
theorem read_of_readValue (h : readValue fuel depth s = .ok (v, rest)) :
    Value.read depth s = .ok (v, rest) :=
  ((steady fuel).value h).read_of_le _ (by omega)

theorem length_lt_of_read (h : Value.read depth s = .ok (v, rest)) : rest.length < s.length :=
  ((steady _).value h).shorter

/-- Blanks before a value do not matter. -/
theorem read_of_skipBlanks {b : UInt8} (hs : skipBlanks s = b :: r)
    (h : Value.read depth s = .ok (v, rest)) : Value.read depth (b :: r) = .ok (v, rest) := by
  obtain ⟨b', r', hs', hopens⟩ := readValue_eq_ok_iff.mp h
  cases hs.symm.trans hs'
  exact read_of_readValue
    (readValue_eq_ok_iff.mpr ⟨b, r, skipBlanks_of_eq_cons hs, hopens⟩)

/-! ### Arrays and objects -/

/-- The items of an array, from the byte after its opening bracket to the one after its closing
bracket. -/
inductive Items (depth : Nat) : (first : Bool) → Bytes → List Value → Bytes → Prop
  | done {first : Bool} {s r : Bytes} (h : nextItem first s = .ok (false, r)) :
    Items depth first s [] (r.drop 1)
  | item {first : Bool} {s r r' : Bytes} {v : Value} {vs : List Value} {rest : Bytes}
    (h : nextItem first s = .ok (true, r)) (hv : Value.read depth r = .ok (v, r'))
    (hvs : Items depth false r' vs rest) : Items depth first s (v :: vs) rest

/-- The members of an object as they are written, from the byte after its opening bracket to the one
after its closing bracket. -/
inductive Entries (depth : Nat) : (first : Bool) → Bytes → List (String × Value) → Bytes → Prop
  | done {first : Bool} {s r : Bytes} (h : nextKey first s = .ok (none, r)) :
    Entries depth first s [] (r.drop 1)
  | entry {first : Bool} {s r r₁ r₂ : Bytes} {key : String} {v : Value}
    {es : List (String × Value)} {rest : Bytes} (h : nextKey first s = .ok (some key, r))
    (hcolon : readColon r = .ok r₁) (hv : Value.read depth r₁ = .ok (v, r₂))
    (hes : Entries depth false r₂ es rest) : Entries depth first s ((key, v) :: es) rest

/-- Members with each key once, in place: a repeated key keeps its last value. -/
def collapsed (es ms : List (String × Value)) : List (String × Value) :=
  es.foldl (fun ms (key, v) => insertMember key v ms) ms

theorem items_of_readItems {vs : List Value} (h : readItems fuel depth first s = .ok (vs, rest)) :
    Items depth first s vs rest := by
  induction fuel generalizing first s vs with
  | zero => nomatch h
  | succ fuel ih =>
    rcases readItems_eq_ok_iff.mp h with ⟨r, hnext, rfl, rfl⟩ | ⟨r, v, r', vs', hnext, hv, hvs, rfl⟩
    · exact .done hnext
    · exact .item hnext (read_of_readValue hv) (ih hvs)

theorem entries_of_readMembers {ms ms' : List (String × Value)}
    (h : readMembers fuel depth first ms s = .ok (ms', rest)) :
    ∃ es, Entries depth first s es rest ∧ ms' = collapsed es ms := by
  induction fuel generalizing first ms s with
  | zero => nomatch h
  | succ fuel ih =>
    rcases readMembers_eq_ok_iff.mp h with
      ⟨r, hnext, rfl, rfl⟩ | ⟨r, key, r₁, v, r₂, hnext, hcolon, hv, hms⟩
    · exact ⟨[], .done hnext, rfl⟩
    · obtain ⟨es, hes, rfl⟩ := ih hms
      exact ⟨(key, v) :: es, .entry hnext hcolon (read_of_readValue hv) hes, rfl⟩

end Deployer.Json
