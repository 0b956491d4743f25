import Deployer.Proofs.Json.Filling

/-!
# Values that are read

A value that has been read has the members of its objects in order, each key once, and opens no more
brackets than were allowed (`readable_of_read`). Conversely a value like this is read as itself wherever it
is spelled (`Value.Readable.takes`): with its members in order nothing is collapsed or moved, and its
brackets are again allowed. So a value that has been read may be written and read again under the bound
under which it was read, and a whole text that spells it is read as it (`Value.Readable.parse`).
-/

namespace Deployer.Json

variable {σ α : Type} {s t u bs sep r rest : Bytes} {fuel depth : Nat} {first : Bool} {key : String}
  {v w : Value} {vs : List Value} {es ms ms' : List (String × Value)}

/-! ### Members in order -/

/-- Members whose keys increase, so that none is repeated. -/
def Increasing (ms : List (String × Value)) : Prop := (keysOf ms).Pairwise (· < ·)

/-- A member is the one that was inserted, or was there before. -/
theorem mem_insertMember {e : String × Value} (h : e ∈ insertMember key v ms) :
    e = (key, v) ∨ e ∈ ms := by
  induction ms with
  | nil => exact .inl (List.mem_singleton.mp h)
  | cons m ms ih =>
    obtain ⟨k, w⟩ := m
    rw [insertMember] at h
    split_ifs at h
    · exact List.mem_cons.mp h
    · exact (List.mem_cons.mp h).imp_right (List.mem_cons_of_mem _)
    · rcases List.mem_cons.mp h with rfl | h
      · exact .inr List.mem_cons_self
      · exact (ih h).imp_right (List.mem_cons_of_mem _)

/-- A member that is put in its place leaves the others in order. -/
theorem Increasing.insertMember (h : Increasing ms) (key : String) (v : Value) :
    Increasing (insertMember key v ms) := by
  induction ms with
  | nil => exact List.pairwise_singleton _ _
  | cons m ms ih =>
    obtain ⟨k, w⟩ := m
    obtain ⟨hk, hms⟩ := List.pairwise_cons.mp h
    rw [Json.insertMember]
    split_ifs with hlt heq
    · refine List.pairwise_cons.mpr ⟨fun k' hk' => ?_, h⟩
      rcases List.mem_cons.mp hk' with rfl | hk'
      · exact hlt
      · exact String.lt_trans hlt (hk k' hk')
    · exact heq ▸ h
    · refine List.pairwise_cons.mpr ⟨fun k' hk' => ?_, ih hms⟩
      obtain ⟨e, he, rfl⟩ := List.mem_map.mp hk'
      rcases mem_insertMember he with rfl | he
      · exact String.not_le.mp fun hle => heq (String.le_antisymm hle (String.not_lt.mp hlt))
      · exact hk e.1 (List.mem_map_of_mem he)

/-- The place of a key beyond all others is at the end. -/
theorem insertMember_eq_append (h : ∀ k ∈ keysOf ms, k < key) (v : Value) :
    insertMember key v ms = ms ++ [(key, v)] := by
  induction ms with
  | nil => rfl
  | cons m ms ih =>
    obtain ⟨k, w⟩ := m
    obtain ⟨hk, hms⟩ := List.forall_mem_cons.mp h
    rw [insertMember, if_neg (String.lt_asymm hk), if_neg (String.ne_of_lt hk).symm, ih hms]
    rfl

/-- Where members are in order, each key is beyond all that stand before it. -/
theorem Increasing.insertMember_eq_append (h : Increasing (ms ++ (key, v) :: es)) :
    Json.insertMember key v ms = ms ++ [(key, v)] := by
  refine Json.insertMember_eq_append (fun k hk => ?_) v
  rw [Increasing, keysOf, List.map_append, List.pairwise_append] at h
  exact h.2.2 k hk key List.mem_cons_self

/-! ### What a value that was read is like -/

/-- **A value that some text is read as** when so many brackets may be opened. -/
inductive Value.Readable : Nat → Value → Prop
  | null {depth : Nat} : Readable depth .null
  | bool {depth : Nat} (value : Bool) : Readable depth (.bool value)
  | number {depth : Nat} (n : Number) : Readable depth (.number n)
  | string {depth : Nat} (text : String) : Readable depth (.string text)
  | array {depth : Nat} {vs : List Value} (h : ∀ v ∈ vs, Readable depth v) :
    Readable (depth + 1) (.array vs)
  | object {depth : Nat} {ms : List (String × Value)} (hms : Increasing ms)
    (h : ∀ e ∈ ms, Readable depth e.2) : Readable (depth + 1) (.object ms)

/-- What is read with some fuel is readable. -/
structure Yields (fuel : Nat) : Prop where
  value : ∀ {depth : Nat} {s : Bytes} {v : Value} {rest : Bytes},
    readValue fuel depth s = .ok (v, rest) → v.Readable depth
  items : ∀ {depth : Nat} {first : Bool} {s : Bytes} {vs : List Value} {rest : Bytes},
    readItems fuel depth first s = .ok (vs, rest) → ∀ v ∈ vs, v.Readable depth
  members : ∀ {depth : Nat} {first : Bool} {ms ms' : List (String × Value)} {s rest : Bytes},
    readMembers fuel depth first ms s = .ok (ms', rest) → Increasing ms →
      (∀ e ∈ ms, e.2.Readable depth) → Increasing ms' ∧ ∀ e ∈ ms', e.2.Readable depth

theorem yields_zero : Yields 0 where
  value h := nomatch h
  items h := nomatch h
  members h := nomatch h

theorem Yields.succ (ih : Yields fuel) : Yields (fuel + 1) where
  value {depth s v rest} h := by
    obtain ⟨b, r, -, hopens⟩ := readValue_eq_ok_iff.mp h
    cases hopens with
    | null => exact .null
    | true => exact .bool true
    | false => exact .bool false
    | number => exact .number _
    | string => exact .string _
    | array _ hitems => exact .array (ih.items hitems)
    | object _ hmembers =>
      obtain ⟨hincreasing, hreadable⟩ := ih.members hmembers .nil fun _ he => nomatch he
      exact .object hincreasing hreadable
  items {depth first s vs rest} h := by
    rcases readItems_eq_ok_iff.mp h with ⟨r, -, rfl, -⟩ | ⟨r, v, r', vs', -, hv, hvs, rfl⟩
    · exact fun _ h => nomatch h
    · exact List.forall_mem_cons.mpr ⟨ih.value hv, ih.items hvs⟩
  members {depth first ms ms' s rest} h hms hvalues := by
    rcases readMembers_eq_ok_iff.mp h with ⟨r, -, rfl, -⟩ | ⟨r, key, r₁, v, r₂, -, -, hv, hmore⟩
    · exact ⟨hms, hvalues⟩
    · refine ih.members hmore (hms.insertMember key v) fun e he => ?_
      rcases mem_insertMember he with rfl | he
      · exact ih.value hv
      · exact hvalues e he

private theorem yields (fuel : Nat) : Yields fuel := by
  induction fuel with
  | zero => exact yields_zero
  | succ fuel ih => exact ih.succ

/-- **Whatever is read is readable**, under the bound under which it was read. -/
theorem readable_of_read (h : Value.read depth s = .ok (v, rest)) : v.Readable depth :=
  (yields _).value h

/-! ### Reading what is spelled -/

/-- Behind blanks and a bracket there is no further item. -/
private theorem nextItem_noItem (hbs : Blanks bs) (first : Bool) (rest : Bytes) :
    nextItem first (bs ++ byte ']' :: rest) = .ok (false, byte ']' :: rest) := by
  rw [nextItem, skipBlanks_append_cons hbs (by decide)]
  exact if_pos rfl

/-- Behind a separator there is a further item. -/
private theorem nextItem_item (hsep : Separates first sep) (ht : Spells (.value v) t)
    (rest : Bytes) :
    nextItem first (sep ++ (t ++ rest)) = .ok (true, t ++ rest) := by
  obtain ⟨c, t, rfl, hc⟩ := ht.exists_cons
  obtain ⟨hblank, hclose, -, -⟩ := of_start hc
  obtain ⟨b, r, hs, hcases⟩ := hsep.skipBlanks hblank (t ++ rest)
  rw [nextItem, List.cons_append, hs]
  rcases hcases with ⟨rfl, rfl, rfl⟩ | ⟨rfl, rfl, hr⟩
  · simp [hclose]
  · simp [show byte ',' ≠ byte ']' by decide, hr, hclose]

/-- What it is to read a part as it is, with fuel that is twice its length. Members are put behind those
that have been read before. -/
def Part.Reads : Part → Bytes → Prop
  | .value v, t => ∀ fuel depth rest, v.Readable depth → Ends rest → 2 * t.length ≤ fuel →
    readValue fuel depth (t ++ rest) = .ok (v, rest)
  | .items first vs, t => ∀ fuel depth rest, (∀ v ∈ vs, v.Readable depth) → 2 * t.length ≤ fuel →
    readItems fuel depth first (t ++ rest) = .ok (vs, rest)
  | .members first es, t => ∀ fuel depth rest ms, Increasing (ms ++ es) →
    (∀ e ∈ es, e.2.Readable depth) → 2 * t.length ≤ fuel →
    readMembers fuel depth first ms (t ++ rest) = .ok (ms ++ es, rest)

/-- A value is read by its first byte. -/
theorem readValue_cons {b : UInt8} (hb : Start.of b ≠ .other) (hfuel : 0 < fuel)
    (h : Opens (readItems (fuel - 1) · true) (readMembers (fuel - 1) · true []) b s depth v rest) :
    readValue fuel depth (b :: s) = .ok (v, rest) := by
  obtain ⟨fuel, rfl⟩ := Nat.exists_eq_add_one_of_ne_zero (Nat.ne_of_gt hfuel)
  exact readValue_eq_ok_iff.mpr ⟨b, s, skipBlanks_cons (of_start hb).1 s, h⟩

/-- The blanks before a value are taken with it. -/
theorem readValue_append (hbs : Blanks bs) (h : readValue fuel depth s = .ok (v, rest)) :
    readValue fuel depth (bs ++ s) = .ok (v, rest) := by
  cases fuel with
  | zero => nomatch h
  | succ fuel =>
    obtain ⟨b, r, hs, hopens⟩ := readValue_eq_ok_iff.mp h
    exact readValue_eq_ok_iff.mpr ⟨b, r, (skipBlanks_append hbs s).trans hs, hopens⟩

/-- Whatever is spelled and readable is read. -/
theorem Spells.reads {p : Part} (h : Spells p t) : p.Reads t := by
  -- one step of the reader for each rule of the grammar; only a number does not tell its own end
  induction h with
  | null =>
    intro fuel depth rest _ _ hfuel
    exact readValue_cons (by decide) (by simp at hfuel; omega)
      (.null (by decide) (readWord_append ['u', 'l', 'l'] rest))
  | true =>
    intro fuel depth rest _ _ hfuel
    exact readValue_cons (by decide) (by simp at hfuel; omega)
      (.true (by decide) (readWord_append ['r', 'u', 'e'] rest))
  | false =>
    intro fuel depth rest _ _ hfuel
    exact readValue_cons (by decide) (by simp at hfuel; omega)
      (.false (by decide) (readWord_append ['a', 'l', 's', 'e'] rest))
  | number h =>
    intro fuel depth rest _ hrest hfuel
    have hread := readNumber_append hrest h.read
    obtain ⟨b, u, rfl, hb⟩ := start_of_readNumber h.read
    exact readValue_cons (by rw [hb]; decide) (by simp at hfuel; omega) (.number hb hread)
  | string h =>
    intro fuel depth rest _ _ hfuel
    rw [List.cons_append, List.append_assoc]
    exact readValue_cons (by decide) (by simp at hfuel; omega)
      (.string (by decide) (readString_of_spells h rest))
  | array h ih =>
    intro fuel depth rest hreadable _ hfuel
    rw [List.length_cons] at hfuel
    rcases hreadable with _ | _ | _ | _ | hvs | _
    exact readValue_cons (by decide) (by omega) (.array (by decide) (ih _ _ rest hvs (by omega)))
  | object h ih =>
    intro fuel depth rest hreadable _ hfuel
    rw [List.length_cons] at hfuel
    rcases hreadable with _ | _ | _ | _ | _ | ⟨hes, hvalues⟩
    exact readValue_cons (by decide) (by omega)
      (.object (by decide) (ih _ _ rest [] hes hvalues (by omega)))
  | @noItem first bs hbs =>
    intro fuel depth rest _ hfuel
    simp only [List.length_append, List.length_singleton] at hfuel
    obtain ⟨fuel, rfl⟩ : ∃ n, fuel = n + 1 := ⟨fuel - 1, by omega⟩
    have hnext := nextItem_noItem hbs first rest
    rw [List.append_assoc]
    exact readItems_eq_ok_iff.mpr (.inl ⟨_, hnext, rfl, rfl⟩)
  | @item first v vs sep t u hsep hv hvs ihv ihvs =>
    intro fuel depth rest hreadable hfuel
    obtain ⟨hreadv, hreadvs⟩ := List.forall_mem_cons.mp hreadable
    have ht := hv.length_pos
    have hu := hvs.length_pos
    simp only [List.length_append] at hfuel
    obtain ⟨fuel, rfl⟩ : ∃ n, fuel = n + 1 := ⟨fuel - 1, by omega⟩
    -- the value ends where the comma or the bracket behind it begins
    have hvalue := ihv fuel depth (u ++ rest) hreadv (hvs.ends_items rest) (by omega)
    have hitems := ihvs fuel depth rest hreadvs (by omega)
    rw [List.append_assoc, List.append_assoc]
    exact readItems_eq_ok_iff.mpr
      (.inr ⟨_, v, _, vs, nextItem_item hsep hv (u ++ rest), hvalue, hitems, rfl⟩)
  | @noMember first bs hbs =>
    intro fuel depth rest ms _ _ hfuel
    simp only [List.length_append, List.length_singleton] at hfuel
    obtain ⟨fuel, rfl⟩ : ∃ n, fuel = n + 1 := ⟨fuel - 1, by omega⟩
    have hnext := nextKey_noMember hbs first rest
    rw [List.append_assoc]
    exact readMembers_eq_ok_iff.mpr (.inl ⟨_, hnext, List.append_nil ms, rfl⟩)
  | @member first key v es sep k bs bs' t u hsep hkey hbs hbs' hv hes ihv ihes =>
    intro fuel depth rest ms hincreasing hreadable hfuel
    obtain ⟨hreadv, hreades⟩ := List.forall_mem_cons.mp hreadable
    have ht := hv.length_pos
    have hu := hes.length_pos
    simp only [List.length_append, List.length_cons] at hfuel
    obtain ⟨fuel, rfl⟩ : ∃ n, fuel = n + 1 := ⟨fuel - 1, by omega⟩
    have hvalue := readValue_append hbs'
      (ihv fuel depth (u ++ rest) hreadv (hes.ends_members rest) (by omega))
    -- the key is greater than all before it, so its member is put behind them
    have hplace := hincreasing.insertMember_eq_append
    have hmembers : readMembers fuel depth .false (insertMember key v ms) (u ++ rest) =
        .ok (ms ++ (key, v) :: es, rest) := by
      rw [List.append_cons] at hincreasing ⊢
      rw [hplace]
      exact ihes fuel depth rest _ hincreasing hreades (by omega)
    simp only [List.append_assoc, List.cons_append]
    exact readMembers_eq_ok_iff.mpr (.inr ⟨_, key, _, v, _, nextKey_member hsep hkey _,
      readColon_append hbs _, hvalue, hmembers⟩)

/-- **A readable value is read as itself**, however it is spelled. -/
theorem Value.Readable.takes (h : v.Readable depth) : Takes Value.read depth v v := by
  intro bs t rest hbs ht hrest
  exact read_of_readValue (readValue_append hbs (ht.reads _ depth rest h hrest (Nat.le_refl _)))

/-- What a whole text is read as is what is read at its front. -/
theorem exists_read_of_parseAll {read : TypedReader α} {a : α} (h : parseAll read s = .ok a) :
    ∃ rest, read maxDepth s = .ok (a, rest) := by
  obtain ⟨⟨a', rest⟩, hread, h⟩ := bind_eq_ok.mp (mapError_eq_ok.mp h)
  obtain ⟨-, -, heq⟩ := bind_eq_ok.mp h
  cases heq
  exact ⟨rest, hread⟩

/-- A value that a whole text is read as leaves no brackets open beyond the bound. -/
theorem Value.readable_of_parse (h : Value.parse t = .ok v) : v.Readable maxDepth := by
  have hparse : parseAll Value.read t = .ok v := h
  obtain ⟨rest, hread⟩ := exists_read_of_parseAll hparse
  exact readable_of_read hread

/-- **A whole text is read as the readable value that it spells.** -/
theorem Value.Readable.parse (h : v.Readable maxDepth) (ht : Spells (.value v) t) :
    Value.parse t = .ok v := by
  have hparse : parseAll Value.read ([] ++ (t ++ [])) = .ok v :=
    parseAll_of_takes h.takes blanks_nil ht blanks_nil
  rwa [List.nil_append, List.append_nil] at hparse

/-! ### What every field of a record keeps -/

section Keeps

variable {P : σ → Prop} {fields : List (Field σ)} {draft draft' : σ}

/-- Every field that is read **keeps** a property of drafts. -/
def Keeps (fields : List (Field σ)) (depth : Nat) (P : σ → Prop) : Prop :=
  ∀ f ∈ fields, ∀ {draft draft' : σ} {s rest : Bytes}, P draft →
    f.read draft depth s = .ok (draft', rest) → P draft'

theorem Keeps.readPositions (h : Keeps fields depth P) (hdraft : P draft)
    (hread : Record.readPositions depth fields first draft s = .ok (draft', rest)) : P draft' := by
  induction fields generalizing first draft s with
  | nil =>
    cases hread
    exact hdraft
  | cons f fs ih =>
    obtain ⟨hf, hfs⟩ := List.forall_mem_cons.mp h
    rw [Record.readPositions] at hread
    split at hread
    next => cases hread
    next =>
      cases hread
      exact hdraft
    next =>
      split at hread
      next => cases hread
      next hvalue => exact ih hfs (hf hdraft hvalue) hread

theorem Keeps.readKeys (h : Keeps fields depth P) (hdraft : P draft)
    (hread : Record.readKeys fields depth fuel first draft s = .ok (draft', rest)) : P draft' := by
  induction fuel generalizing first draft s with
  | zero => cases hread
  | succ fuel ih =>
    rw [Record.readKeys] at hread
    split at hread
    next => cases hread
    next =>
      cases hread
      exact hdraft
    next key r hnext =>
      split at hread
      next =>
        split at hread
        next => cases hread
        next => exact ih hdraft hread
      next f hfind =>
        split_ifs at hread
        split at hread
        next => cases hread
        next hvalue =>
          obtain ⟨r, -, hvalue⟩ := bind_eq_ok.mp hvalue
          exact ih (h f (List.mem_of_find?_eq_some hfind) hdraft hvalue) hread

/-- **A record that is read comes of a draft** with every property that the first draft has and the fields
keep. -/
theorem Keeps.read {record : Record σ α} {a : α} (h : Keeps record.fields depth P)
    (hstart : P record.start) (hread : record.read (depth + 1) s = .ok (a, rest)) :
    ∃ draft, P draft ∧ record.finish draft = .ok a := by
  rw [Record.read] at hread
  split at hread
  next => cases hread
  next b r hs =>
    split at hread
    next => contradiction
    next heq =>
      cases heq
      obtain ⟨⟨draft, r⟩, hdraft, hread⟩ := bind_eq_ok.mp hread
      refine ⟨draft, h.readPositions hstart hdraft, ?_⟩
      cases ha : record.finish draft with
      | error missing => simp [ha] at hread
      | ok a' =>
        simp only [ha] at hread
        obtain ⟨r', -, hread⟩ := bind_eq_ok.mp hread
        cases hread
        rfl
    next => contradiction
    next heq =>
      cases heq
      obtain ⟨⟨draft, r⟩, hdraft, hread⟩ := bind_eq_ok.mp hread
      refine ⟨draft, h.readKeys hstart hdraft, ?_⟩
      cases ha : record.finish draft with
      | error missing => simp [ha] at hread
      | ok a' =>
        simp only [ha] at hread
        cases hread
        rfl
    next => cases hread

end Keeps

end Deployer.Json
