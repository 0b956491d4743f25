import Deployer.Json.Record
import Deployer.Proofs.Json.Skip
import Mathlib.Logic.Function.Basic

/-!
# Typed readers and decoded values

A record can be taken straight off a text, or recognised in a value that was decoded first. The two
ways differ in what they look at: on a text the fields come in the order of the keys, whatever is not
a field is passed over, and a draft is filled as it goes; in a value the members are looked up by name.

* `Agrees`: a typed reader gives what a function gives on the decoded value, and takes the same bytes.
* `Assembles`: the draft of a record is determined by what can be looked up under its field names.
  This is all that has to be shown of a particular record, field by field.
* `Assembles.read_eq`: then the record's reader agrees with `Record.recognise`, in both forms, on every
  text that can be decoded and in which no field is repeated.
-/

namespace Deployer.Json

variable {σ α β : Type} {s r rest : Bytes} {depth fuel : Nat} {first : Bool} {v : Value}

/-! ### Single values -/

/-- A typed reader **agrees** with a function on values: on a text whose value can be read it gives
what the function gives, and takes the same bytes; and it refuses the text if the function gives
nothing. -/
def Agrees (read : TypedReader α) (of : Value → Option α) : Prop :=
  ∀ {depth : Nat} {s : Bytes} {v : Value} {rest : Bytes}, Value.read depth s = .ok (v, rest) →
    (read depth s).toOption = (of v).map (·, rest)

theorem agrees_read : Agrees Value.read some := by
  intro depth s v rest h
  rw [h]
  rfl

theorem agrees_readText : Agrees readText Value.string? := by
  intro depth s v rest h
  obtain ⟨b, r, hs, hopens⟩ := readValue_eq_ok_iff.mp h
  cases hopens <;> rename_i hb h <;> simp [readText, hs, hb, h, Value.string?]

section

variable {read : TypedReader α} {of : Value → Option α}

theorem Agrees.map (h : Agrees read of) (f : α → β) :
    Agrees (mapReader f read) fun v => (of v).map f := by
  intro depth s v rest hv
  rw [mapReader, toOption_map, h hv, Option.map_map, Option.map_map]
  rfl

/-- Only `null` stands for nothing. -/
theorem Agrees.optional (h : Agrees read of) :
    Agrees (readOptional read) fun v => if v.isNull then some none else (of v).map some := by
  intro depth s v rest hv
  obtain ⟨b, r, hs, hopens⟩ := readValue_eq_ok_iff.mp hv
  simp only [readOptional, hs]
  by_cases hnull : Start.of b = .null
  · cases hopens with
    | null hb hword => simp [hb, hword, Except.map, Value.isNull]
    | true hb | false hb | number hb | string hb | array hb | object hb =>
      cases hnull.symm.trans hb
  · have hsome : v.isNull = false := by
      cases hopens with
      | null hb => exact absurd hb hnull
      | true | false | number | string | array | object => rfl
    rw [if_neg hnull, toOption_map, h (read_of_skipBlanks hs hv), hsome]
    cases of v <;> rfl

end

/-! ### Keys of a text -/

/-- The keys of an object, from the byte after its opening bracket: in the order in which they are
written, as often as they are written, with their escapes decoded. -/
def keysFrom : (fuel : Nat) → (first : Bool) → Bytes → List String
  | 0, _, _ => []
  | fuel + 1, first, s =>
    match nextKey first s with
    | .ok (some key, r) =>
      key :: match (readColon r).bind skip with
        | .ok r => keysFrom fuel false r
        | .error _ => []
    | _ => []

/-- The keys of the object that a text spells; other texts have none. -/
def topKeys (text : Bytes) : List String :=
  match skipBlanks text with
  | [] => []
  | b :: r => if Start.of b = .object then keysFrom (r.length + 1) true r else []

/-- Every member takes at least one byte, and so does the closing bracket. -/
theorem Entries.length_lt {es : List (String × Value)} (h : Entries depth first s es rest) :
    es.length + rest.length < s.length := by
  induction h with
  | done h => simpa using length_lt_of_nextKey_none h
  | entry h hcolon hv hes ih =>
    have hkey := length_lt_of_nextKey_some h
    have hcolon := length_lt_of_skipBlanks (skipBlanks_of_readColon hcolon)
    have hvalue := length_lt_of_read hv
    simp only [List.length_cons]
    omega

/-- The keys are those of the members as they are written. -/
private theorem keysFrom_eq {es : List (String × Value)} (h : Entries depth first s es rest)
    (hfuel : es.length < fuel) : keysFrom fuel first s = es.map (·.1) := by
  induction h generalizing fuel with
  | done h =>
    obtain ⟨fuel, rfl⟩ := Nat.exists_eq_add_one_of_ne_zero (Nat.ne_zero_of_lt hfuel)
    simp [keysFrom, h]
  | entry h hcolon hv hes ih =>
    obtain ⟨fuel, rfl⟩ := Nat.exists_eq_add_one_of_ne_zero (Nat.ne_zero_of_lt hfuel)
    simp [keysFrom, h, hcolon, Except.bind, skip_of_read hv, ih (Nat.lt_of_succ_lt_succ hfuel)]

/-! ### Lookups -/

variable {es ms : List (String × Value)} {key : String}

private theorem lookup_cons_eq_ite (key name : String) (v : Value) (es : List (String × Value)) :
    ((key, v) :: es).lookup name = if name = key then some v else es.lookup name := by
  by_cases h : name = key
  · rw [h, List.lookup_cons_self, if_pos rfl]
  · rw [List.lookup_cons, beq_false_of_ne h, if_neg h]

/-- A member that is inserted hides the one that was there. -/
private theorem lookup_insertMember (key name : String) (v : Value) (ms : List (String × Value)) :
    (insertMember key v ms).lookup name = if name = key then some v else ms.lookup name := by
  induction ms with
  | nil => exact lookup_cons_eq_ite key name v []
  | cons m ms ih =>
    obtain ⟨k, w⟩ := m
    unfold insertMember
    split
    next => exact lookup_cons_eq_ite key name v _
    next =>
      split
      next hkey =>
        subst hkey
        simp only [lookup_cons_eq_ite]
        split <;> rfl
      next hkey =>
        simp only [lookup_cons_eq_ite, ih]
        by_cases h : name = k
        · rw [if_pos h, if_pos h, if_neg fun hname => hkey (hname.symm.trans h)]
        · rw [if_neg h, if_neg h]

private theorem lookup_eq_none (h : key ∉ es.map (·.1)) : es.lookup key = none := by
  refine List.lookup_eq_none_iff.mpr fun e he => bne_iff_ne.mpr fun heq => h ?_
  exact List.mem_map.mpr ⟨e, he, heq.symm⟩

/-- What can be looked up in members, or else elsewhere. -/
def overlay (look : String → Option Value) (es : List (String × Value)) : String → Option Value :=
  fun key => (es.lookup key).or (look key)

private theorem overlay_of_not_mem {look : String → Option Value} (h : key ∉ es.map (·.1)) :
    overlay look es key = look key := by
  rw [overlay, lookup_eq_none h, Option.none_or]

theorem overlay_cons (look : String → Option Value) (key name : String) (v : Value) :
    overlay look ((key, v) :: es) name = if name = key then some v else overlay look es name := by
  rw [overlay, overlay, lookup_cons_eq_ite]
  split <;> rfl

theorem overlay_none (es : List (String × Value)) : overlay (fun _ => none) es = (List.lookup · es) :=
  funext fun _ => Option.or_none

/-- What is known of a key that does not occur may as well be a member. -/
private theorem overlay_update {look : String → Option Value} (h : key ∉ es.map (·.1)) :
    overlay (Function.update look key (some v)) es = overlay look ((key, v) :: es) := by
  funext name
  rw [overlay_cons]
  split
  next hname => rw [hname, overlay_of_not_mem h, Function.update_self]
  next hname => rw [overlay, overlay, Function.update_of_ne hname]

/-- A key that is not repeated does not occur again. -/
theorem not_mem_of_count_cons {keys : List String} (h : (key :: keys).count key ≤ 1) :
    key ∉ keys := by
  rw [List.count_cons_self] at h
  exact List.count_eq_zero.mp (Nat.le_zero.mp (Nat.le_of_succ_le_succ h))

/-- Looking up a key that is not repeated does not show that members have been collapsed. -/
theorem lookup_collapsed (h : (es.map (·.1)).count key ≤ 1) :
    (collapsed es ms).lookup key = overlay (List.lookup · ms) es key := by
  induction es generalizing ms with
  | nil => rfl
  | cons e es ih =>
    obtain ⟨k, w⟩ := e
    rw [List.map_cons] at h
    have hcollapsed : collapsed ((k, w) :: es) ms = collapsed es (insertMember k w ms) := rfl
    rw [hcollapsed, ih (Nat.le_trans List.count_le_count_cons h), overlay_cons]
    by_cases hkey : key = k
    · subst hkey
      rw [overlay_of_not_mem (not_mem_of_count_cons h), lookup_insertMember, if_pos rfl, if_pos rfl]
    · rw [overlay, overlay, lookup_insertMember, if_neg hkey, if_neg hkey]

/-! ### Records -/

/-- **How a record is assembled** from what can be looked up under the names of its fields: from
nothing comes the first draft; a field of which nothing was known is read off the text as it is taken
from a value; and where no draft can be assembled, none can be when more is known. -/
structure Assembles (record : Record σ α) (assemble : (String → Option Value) → Option σ) :
    Prop where
  start : assemble (fun _ => none) = some record.start
  congr : ∀ {look look' : String → Option Value},
    (∀ f ∈ record.fields, look f.name = look' f.name) → assemble look = assemble look'
  mono : ∀ {look look' : String → Option Value},
    (∀ f ∈ record.fields, ∀ v, look f.name = some v → look' f.name = some v) →
      (assemble look').isSome → (assemble look).isSome
  field : ∀ {f : Field σ}, f ∈ record.fields → ∀ {look : String → Option Value} {draft : σ},
    assemble look = some draft → look f.name = none → f.given draft = false ∧
      Agrees (f.read draft) fun v => assemble (Function.update look f.name (some v))

/-- What is collected of a field: nothing if nothing is known of it, else what its value gives. -/
def slot (of : Value → Option β) : Option Value → Option (Option β)
  | none => some none
  | some v => (of v).map some

@[simp] theorem slot_none (of : Value → Option β) : slot of none = some none := rfl

@[simp] theorem slot_some (of : Value → Option β) (v : Value) :
    slot of (some v) = (of v).map some := rfl

/-- A slot that is spoilt is not mended. -/
theorem slot_mono {of : Value → Option β} {v w : Option Value} {b : Option β}
    (h : ∀ x, v = some x → w = some x) (hw : slot of w = some b) : ∃ a, slot of v = some a := by
  cases v with
  | none => exact ⟨none, rfl⟩
  | some x => exact ⟨b, h x rfl ▸ hw⟩

/-- A field that a draft keeps as an option is read as its value is taken, if its own reader agrees
with what is taken. -/
theorem Field.of_agrees {assemble : (String → Option Value) → Option σ}
    {look : String → Option Value} {draft : σ} {name : String} {get : σ → Option β}
    {set : σ → β → σ} {read : TypedReader β} {of : Value → Option β} (hread : Agrees read of)
    (hnone : look name = none) (hget : slot of (look name) = some (get draft))
    (hset : ∀ v, assemble (Function.update look name (some v)) = (of v).map (set draft)) :
    (Field.of name get set read).given draft = false ∧
      Agrees ((Field.of name get set read).read draft) fun v =>
        assemble (Function.update look name (some v)) := by
  rw [hnone, slot_none, Option.some.injEq] at hget
  refine ⟨by simp [Field.of, ← hget], ?_⟩
  intro depth s v rest hv
  simp only [hset]
  exact hread.map (set draft) hv

namespace Assembles

variable {record : Record σ α} {assemble : (String → Option Value) → Option σ}
  {look : String → Option Value} {draft : σ}

/-- Nothing is known yet of the fields that are still to come. -/
def Fresh (record : Record σ α) (look : String → Option Value) (es : List (String × Value)) :
    Prop :=
  ∀ f ∈ record.fields, f.name ∈ es.map (·.1) → look f.name = none

theorem Fresh.update {f : Field σ} {v : Value} (h : Fresh record look es)
    (hf : f.name ∉ es.map (·.1)) : Fresh record (Function.update look f.name (some v)) es := by
  intro g hg hmem
  have hne : g.name ≠ f.name := fun hname => hf (hname ▸ hmem)
  rw [Function.update_of_ne hne]
  exact h g hg hmem

/-- A draft that is spoilt is not mended by what is still to come. -/
private theorem overlay_eq_none (h : Assembles record assemble) (hfresh : Fresh record look es)
    (hnone : assemble look = none) : assemble (overlay look es) = none := by
  refine Option.not_isSome_iff_eq_none.mp fun hsome => ?_
  have hlook : (assemble look).isSome := by
    refine h.mono (fun f hf v hv => ?_) hsome
    rw [overlay_of_not_mem, hv]
    intro hmem
    rw [hfresh f hf hmem] at hv
    cases hv
  rw [hnone] at hlook
  cases hlook

/-- Reading a field of which nothing is known spoils the draft, or leads to the draft in which that field
is known. -/
private theorem read_field (h : Assembles record assemble) {f : Field σ} (hf : f ∈ record.fields)
    (hlook : assemble look = some draft) (hnone : look f.name = none)
    (hv : Value.read depth s = .ok (v, rest)) :
    (assemble (Function.update look f.name (some v)) = none ∧
        ∃ e, f.read draft depth s = .error e) ∨
      ∃ draft', assemble (Function.update look f.name (some v)) = some draft' ∧
        f.read draft depth s = .ok (draft', rest) := by
  have hread : (f.read draft depth s).toOption =
      (assemble (Function.update look f.name (some v))).map (·, rest) :=
    (h.field hf hlook hnone).2 hv
  cases hdraft : assemble (Function.update look f.name (some v)) with
  | none =>
    rw [hdraft] at hread
    exact .inl ⟨rfl, toOption_eq_none.mp hread⟩
  | some draft' =>
    rw [hdraft] at hread
    exact .inr ⟨draft', rfl, toOption_eq_some.mp hread⟩

/-- **Keyed form.** Reading keyed fields ends in the draft that is assembled from the members, if no
field is repeated. -/
theorem readKeys_eq (h : Assembles record assemble) (hes : Entries depth first s es rest)
    (hfuel : es.length < fuel) (hlook : assemble look = some draft) (hfresh : Fresh record look es)
    (honce : ∀ f ∈ record.fields, (es.map (·.1)).count f.name ≤ 1) :
    (Record.readKeys record.fields depth fuel first draft s).toOption.map
        (fun p => (p.1, p.2.drop 1)) =
      (assemble (overlay look es)).map (·, rest) := by
  -- by the members as they are written; `look` is what they have told so far
  induction hes generalizing fuel look draft with
  | done hnext =>
    obtain ⟨fuel, rfl⟩ := Nat.exists_eq_add_one_of_ne_zero (Nat.ne_zero_of_lt hfuel)
    have hoverlay : overlay look [] = look := rfl
    simp [Record.readKeys, hnext, hoverlay, hlook]
  | @entry first s r r₁ r₂ key v es rest hnext hcolon hv hes ih =>
    obtain ⟨fuel, rfl⟩ := Nat.exists_eq_add_one_of_ne_zero (Nat.ne_zero_of_lt hfuel)
    have hfuel' : es.length < fuel := Nat.lt_of_succ_lt_succ hfuel
    have hfresh' : Fresh record look es := fun f hf hmem => hfresh f hf (List.mem_cons_of_mem _ hmem)
    have honce' : ∀ f ∈ record.fields, (es.map (·.1)).count f.name ≤ 1 :=
      fun f hf => Nat.le_trans List.count_le_count_cons (honce f hf)
    unfold Record.readKeys
    simp only [hnext]
    cases hfind : record.fields.find? (·.name == key) with
    | none =>
      have hunknown : ∀ f ∈ record.fields, f.name ≠ key := by
        simpa using List.find?_eq_none.mp hfind
      have hcongr : assemble (overlay look ((key, v) :: es)) = assemble (overlay look es) :=
        h.congr fun f hf => by rw [overlay_cons, if_neg (hunknown f hf)]
      simp only [hcolon, Except.bind, skip_of_read hv]
      rw [hcongr]
      exact ih hfuel' hlook hfresh' honce'
    | some f =>
      have hf : f ∈ record.fields := List.mem_of_find?_eq_some hfind
      obtain rfl : f.name = key := by simpa using List.find?_some hfind
      have hmem : f.name ∉ es.map (·.1) := not_mem_of_count_cons (honce f hf)
      have hnone : look f.name = none := hfresh f hf List.mem_cons_self
      have hgiven : f.given draft = false := (h.field hf hlook hnone).1
      rw [← overlay_update hmem]
      simp only [hgiven, hcolon, Except.bind]
      rcases h.read_field hf hlook hnone hv with ⟨hspoilt, e, he⟩ | ⟨draft', hdraft, hok⟩
      · rw [h.overlay_eq_none (hfresh'.update hmem) hspoilt]
        simp [he]
      · simp only [hok]
        exact ih hfuel' hdraft (hfresh'.update hmem) honce'

/-- The closing bracket is all that may follow the items of an array. -/
private theorem endArray_of_nextItem_false (h : nextItem first s = .ok (false, r)) :
    Record.endArray s = .ok (r.drop 1) ∧ Record.endArray r = .ok (r.drop 1) := by
  obtain ⟨t, hs, rfl⟩ := skipBlanks_of_nextItem_false h
  have hr := skipBlanks_of_eq_cons hs
  simp [Record.endArray, hs, hr]

private theorem endArray_of_nextItem_true (h : nextItem first s = .ok (true, r)) :
    (Record.endArray s).toOption = none := by
  obtain ⟨b, t, hs, hb, -⟩ := skipBlanks_of_nextItem_true h
  unfold Record.endArray
  simp only [hs, if_neg hb]
  split
  next =>
    split
    next => rfl
    next => split <;> rfl
  next => rfl

/-- The items stand under names of fields only. -/
private theorem mem_of_mem_zip {names : List String} {vs : List Value} {key : String}
    (h : key ∈ (names.zip vs).map (·.1)) : key ∈ names := by
  obtain ⟨⟨key, v⟩, hmem, rfl⟩ := List.mem_map.mp h
  exact (List.of_mem_zip hmem).1

/-- **Positional form.** Reading fields in their order ends in the draft that is assembled from the
items, under the names of the fields, if there are no more items than fields. -/
theorem readPositions_eq (h : Assembles record assemble) {vs : List Value}
    (hvs : Items depth first s vs rest) {fs : List (Field σ)} (hfs : ∀ f ∈ fs, f ∈ record.fields)
    (hnodup : (fs.map (·.name)).Nodup) (hlook : assemble look = some draft)
    (hfresh : ∀ f ∈ fs, look f.name = none) :
    ((Record.readPositions depth fs first draft s).toOption.bind fun p =>
        (Record.endArray p.2).toOption.map (p.1, ·)) =
      if vs.length ≤ fs.length then
        (assemble (overlay look ((fs.map (·.name)).zip vs))).map (·, rest)
      else none := by
  -- by the items; `fs` are the fields that still wait for one
  induction hvs generalizing fs look draft with
  | done hnext =>
    obtain ⟨hs, hr⟩ := endArray_of_nextItem_false hnext
    have hoverlay : overlay look [] = look := rfl
    cases fs with
    | nil => simp [Record.readPositions, hs, hoverlay, hlook]
    | cons f fs => simp [Record.readPositions, hnext, hr, hoverlay, hlook]
  | @item first s r r' v vs rest hnext hv hvs ih =>
    cases fs with
    | nil => simp [Record.readPositions, endArray_of_nextItem_true hnext]
    | cons f fs =>
      obtain ⟨hname, hnodup⟩ := List.nodup_cons.mp hnodup
      have hmem : f.name ∉ ((fs.map (·.name)).zip vs).map (·.1) := fun h => hname (mem_of_mem_zip h)
      have hf : f ∈ record.fields := hfs f List.mem_cons_self
      have hfs' : ∀ g ∈ fs, g ∈ record.fields := fun g hg => hfs g (List.mem_cons_of_mem _ hg)
      have hfresh' : ∀ g ∈ fs, Function.update look f.name (some v) g.name = none := by
        intro g hg
        have hne : g.name ≠ f.name := fun heq => hname (List.mem_map.mpr ⟨g, hg, heq⟩)
        rw [Function.update_of_ne hne]
        exact hfresh g (List.mem_cons_of_mem _ hg)
      rw [List.map_cons, List.zip_cons_cons, ← overlay_update hmem]
      simp only [Record.readPositions, hnext, List.length_cons, Nat.add_le_add_iff_right]
      rcases h.read_field hf hlook (hfresh f List.mem_cons_self) hv with
        ⟨hspoilt, e, he⟩ | ⟨draft', hdraft, hok⟩
      · rw [h.overlay_eq_none (fun g _ hg => ?_) hspoilt]
        · simp [he]
        · obtain ⟨g', hg', heq⟩ := List.mem_map.mp (mem_of_mem_zip hg)
          rw [← heq]
          exact hfresh' g' hg'
      · simp only [hok]
        exact ih hfs' hnodup hdraft hfresh'

end Assembles

/-- What a record is recognised as in a decoded value. An array stands for an object with its items
under the names of the first fields. -/
def Record.recognise (record : Record σ α) (assemble : (String → Option Value) → Option σ) :
    Value → Option α
  | .object ms => (assemble (List.lookup · ms)).bind fun draft => (record.finish draft).toOption
  | .array vs =>
    if vs.length ≤ record.fields.length then
      (assemble (List.lookup · ((record.fields.map (·.name)).zip vs))).bind fun draft =>
        (record.finish draft).toOption
    else none
  | _ => none

namespace Assembles

variable {record : Record σ α} {assemble : (String → Option Value) → Option σ}

private theorem readArray_eq (h : Assembles record assemble)
    (hnodup : (record.fields.map (·.name)).Nodup) {vs : List Value}
    (hvs : Items depth true s vs rest) :
    (record.readArray depth s).toOption = (record.recognise assemble (.array vs)).map (·, rest) := by
  -- whether the bracket or the draft is looked at first does not matter to what is accepted
  have hread : (record.readArray depth s).toOption =
      ((Record.readPositions depth record.fields true record.start s).toOption.bind fun p =>
        (Record.endArray p.2).toOption.map (p.1, ·)).bind fun p =>
          (record.finish p.1).toOption.map (·, p.2) := by
    unfold Record.readArray
    rw [toOption_bind]
    cases (Record.readPositions depth record.fields true record.start s).toOption with
    | none => rfl
    | some p =>
      obtain ⟨draft, r⟩ := p
      cases hfinish : record.finish draft <;> cases hend : Record.endArray r <;>
        simp [hfinish, hend, bind, Except.bind, pure, Except.pure]
  rw [hread, h.readPositions_eq hvs (fun _ hf => hf) hnodup h.start fun _ _ => rfl, overlay_none]
  simp only [Record.recognise]
  split
  next => cases assemble _ <;> simp
  next => rfl

private theorem readObject_eq (h : Assembles record assemble)
    {es : List (String × Value)} (hes : Entries depth true s es rest)
    (honce : ∀ f ∈ record.fields, (es.map (·.1)).count f.name ≤ 1) :
    (record.readObject depth s).toOption =
      (record.recognise assemble (.object (collapsed es []))).map (·, rest) := by
  have hread : (record.readObject depth s).toOption =
      ((Record.readKeys record.fields depth (s.length + 1) true record.start s).toOption.map
        fun p => (p.1, p.2.drop 1)).bind fun p => (record.finish p.1).toOption.map (·, p.2) := by
    unfold Record.readObject
    rw [toOption_bind]
    cases (Record.readKeys record.fields depth (s.length + 1) true record.start s).toOption with
    | none => rfl
    | some p =>
      obtain ⟨draft, r⟩ := p
      cases hfinish : record.finish draft <;> simp [hfinish, pure, Except.pure]
  have hlookup : assemble (List.lookup · (collapsed es [])) = assemble (List.lookup · es) :=
    h.congr fun f hf => by
      rw [lookup_collapsed (honce f hf)]
      exact congrFun (overlay_none es) f.name
  have hlt := hes.length_lt
  rw [hread, h.readKeys_eq hes (by omega) h.start (fun _ _ _ => rfl) honce, overlay_none]
  simp only [Record.recognise, hlookup]
  cases assemble _ <;> simp

/-- **Reading and recognising.** On a text that can be decoded and in which no field of the record is
repeated, the record's reader gives what the record is recognised as in the decoded value, takes the
same bytes, and refuses the text if it is not recognised. -/
theorem read_eq (h : Assembles record assemble) (hnodup : (record.fields.map (·.name)).Nodup)
    (hv : Value.read depth s = .ok (v, rest))
    (honce : ∀ f ∈ record.fields, (topKeys s).count f.name ≤ 1) :
    (record.read depth s).toOption = (record.recognise assemble v).map (·, rest) := by
  obtain ⟨b, r, hs, hopens⟩ := readValue_eq_ok_iff.mp hv
  cases hopens with
  | array hb hitems =>
    simp only [Record.read, hs, hb]
    exact h.readArray_eq hnodup (items_of_readItems hitems)
  | object hb hmembers =>
    obtain ⟨es, hes, rfl⟩ := entries_of_readMembers hmembers
    have hlt := hes.length_lt
    have hkeys : topKeys s = es.map (·.1) := by
      simp only [topKeys, hs, if_pos hb]
      exact keysFrom_eq hes (by omega)
    simp only [Record.read, hs, hb]
    exact h.readObject_eq hes (hkeys ▸ honce)
  | null hb | true hb | false hb | number hb | string hb =>
    simp [Record.read, hs, hb, Record.recognise]

/-- The same of whole texts: blanks may follow, and nothing else. -/
theorem parseAll_eq (h : Assembles record assemble) (hnodup : (record.fields.map (·.name)).Nodup)
    (hv : Value.ofBytes s = .ok v)
    (honce : ∀ f ∈ record.fields, (topKeys s).count f.name ≤ 1) :
    (parseAll record.read s).toOption = record.recognise assemble v := by
  obtain ⟨⟨v, rest⟩, hread, hrest⟩ := bind_eq_ok.mp hv
  obtain ⟨_, hend, heq⟩ := bind_eq_ok.mp hrest
  cases heq
  rw [parseAll, toOption_mapError, readAll, toOption_bind, h.read_eq hnodup hread honce]
  cases record.recognise assemble v with
  | none => rfl
  | some a => simp [hend, bind, Except.bind, pure, Except.pure]

end Assembles

end Deployer.Json
