import Deployer.Json.Record
import Deployer.Proofs.Json.Grammar
import Mathlib.Data.List.Nodup
import Mathlib.Logic.Function.Basic

/-!
# Records that are spelled in part

A record may be written with any of its members, in any order and among others: `Carries members es` says
that `es` is what is written. Which of its fields a record's reader has then taken is determined by the
keys that it has met, so its draft is a function of a set of keys; `Collects` says what that function has
to satisfy, field by field.

* `Takes`: a typed reader reads a value as something, however it is spelled.
* `Fills`: members fill a draft, one after the other.
* `Collects.takes`: a record is read as what its draft amounts to when the keys of the members are known.
-/

namespace Deployer.Json

variable {σ α β : Type} {s t u bs sep rest : Bytes} {b : UInt8} {depth fuel : Nat} {first : Bool}
  {v : Value} {key : String} {es : List (String × Value)}

/-! ### Scalars -/

/-- A typed reader **takes** a value as something if it reads it so wherever it is spelled. -/
def Takes (read : TypedReader α) (depth : Nat) (v : Value) (a : α) : Prop :=
  ∀ ⦃bs t rest : Bytes⦄, Blanks bs → Spells (.value v) t → Ends rest →
    read depth (bs ++ (t ++ rest)) = .ok (a, rest)

theorem takes_readText (depth : Nat) (text : String) : Takes readText depth (.string text) text := by
  intro bs t rest hbs ht hrest
  cases ht with
  | string h =>
    rw [readText, List.cons_append, skipBlanks_append_cons hbs (by decide), List.append_assoc]
    exact (if_pos (by decide)).trans (readString_of_spells h rest)

theorem takes_readBool (depth : Nat) (value : Bool) : Takes readBool depth (.bool value) value := by
  intro bs t rest hbs ht hrest
  cases ht with
  | true =>
    rw [readBool, List.map_cons, List.cons_append, skipBlanks_append_cons hbs (by decide)]
    exact congrArg (Except.map _) (readWord_append ['r', 'u', 'e'] rest)
  | false =>
    rw [readBool, List.map_cons, List.cons_append, skipBlanks_append_cons hbs (by decide)]
    exact congrArg (Except.map _) (readWord_append ['a', 'l', 's', 'e'] rest)

theorem takes_readUnsigned {bits n : Nat} (depth : Nat) (h : n < Nat.pow 2 bits) :
    Takes (readUnsigned bits) depth (.number (.int n)) n := by
  intro bs t rest hbs ht hrest
  cases ht with
  | number hn =>
    have hread := readNumber_append hrest hn.read
    obtain ⟨b, u, rfl, hb⟩ := start_of_readNumber hn.read
    rw [List.cons_append] at hread ⊢
    rw [readUnsigned, skipBlanks_append_cons hbs (of_start (by rw [hb]; decide)).1]
    simp only [hb, hread, if_true]
    exact if_pos ⟨Int.natCast_nonneg n, h⟩

theorem takes_readVariant {known : List (String × α)} {name : String} {a : α} (depth : Nat)
    (h : known.lookup name = some a) : Takes (readVariant known) depth (.string name) a := by
  intro bs t rest hbs ht hrest
  cases ht with
  | string ht =>
    have hread := readString_of_spells ht rest
    rw [readVariant, List.cons_append, skipBlanks_append_cons hbs (by decide), List.append_assoc]
    simp only [show Start.of (byte '"') = .string by decide, readName, List.cons_append,
      List.nil_append, hread, bind, Except.bind, h]

theorem Takes.map {read : TypedReader α} {a : α} (h : Takes read depth v a) (f : α → β) :
    Takes (mapReader f read) depth v (f a) := by
  intro bs t rest hbs ht hrest
  rw [mapReader, h hbs ht hrest]
  rfl

theorem takes_readOptional_null (read : TypedReader α) (depth : Nat) :
    Takes (readOptional read) depth .null none := by
  intro bs t rest hbs ht _
  cases ht with
  | null =>
    rw [readOptional, List.map_cons, List.cons_append, skipBlanks_append_cons hbs (by decide)]
    exact congrArg (Except.map _) (readWord_append ['u', 'l', 'l'] rest)

theorem takes_readOptional_text (depth : Nat) (text : String) :
    Takes (readOptional readText) depth (.string text) (some text) := by
  intro bs t rest hbs ht hrest
  have hread := takes_readText depth text blanks_nil ht hrest
  cases ht with
  | string h =>
    rw [readOptional, List.cons_append, skipBlanks_append_cons hbs (by decide)]
    exact congrArg (Except.map _) hread

/-- A text of nothing but a value that is taken is read as what the value is taken as. -/
theorem parseAll_of_takes {read : TypedReader α} {a : α} {bs' : Bytes} (h : Takes read maxDepth v a)
    (hbs : Blanks bs) (ht : Spells (.value v) t) (hbs' : Blanks bs') :
    parseAll read (bs ++ (t ++ bs')) = .ok a := by
  have hends : Ends bs' := bs'.append_nil ▸ ends_nil.append hbs'
  have hend : readEnd bs' = .ok () := by
    rw [readEnd, ← bs'.append_nil, skipBlanks_append hbs']
    rfl
  simp only [parseAll, readAll, h hbs ht hends, bind, Except.bind, hend]
  rfl

/-! ### Members -/

theorem nextKey_noMember (hbs : Blanks bs) (first : Bool) (rest : Bytes) :
    nextKey first (bs ++ byte '\x7d' :: rest) = .ok (none, byte '\x7d' :: rest) := by
  rw [nextKey, skipBlanks_append_cons hbs (by decide)]
  rfl

theorem nextKey_member {k : Bytes} (hsep : Separates first sep) (hkey : SpellsChars key.toList k)
    (rest : Bytes) :
    nextKey first (sep ++ byte '"' :: (k ++ byte '"' :: rest)) = .ok (some key, rest) := by
  have hread := readString_of_spells hkey rest
  obtain ⟨b, r, hs, hcases⟩ := hsep.skipBlanks (show isBlank (byte '"') = .false by decide)
    (k ++ byte '"' :: rest)
  rw [nextKey, hs]
  rcases hcases with ⟨rfl, rfl, rfl⟩ | ⟨rfl, rfl, hr⟩
  · simp [show byte '"' ≠ byte '\x7d' by decide, hread]
  · simp [show byte ',' ≠ byte '\x7d' by decide, hr, hread]

/-- Every member takes at least one byte. -/
theorem Spells.length_members (h : Spells (.members first es) t) : es.length < t.length := by
  induction es generalizing first t with
  | nil => exact h.length_pos
  | cons e es ih =>
    cases h with
    | member _ _ _ _ _ hes =>
      have hlt := ih hes
      simp only [List.length_append, List.length_cons]
      omega

/-- Members **fill** a draft: those that are no fields leave it, and each other one is taken by its
field, which the draft does not have yet. -/
inductive Fills (fields : List (Field σ)) (depth : Nat) : σ → List (String × Value) → σ → Prop
  | nil {draft : σ} : Fills fields depth draft [] draft
  | unknown {key : String} {v : Value} {es : List (String × Value)} {draft draft' : σ}
    (h : fields.find? (·.name == key) = none) (hes : Fills fields depth draft es draft') :
    Fills fields depth draft ((key, v) :: es) draft'
  | known {key : String} {v : Value} {es : List (String × Value)} {f : Field σ}
    {draft draft' draft'' : σ} (h : fields.find? (·.name == key) = some f)
    (hfresh : f.given draft = false) (hv : Takes (f.read draft) depth v draft')
    (hes : Fills fields depth draft' es draft'') : Fills fields depth draft ((key, v) :: es) draft''

/-- Reading keyed fields ends in the draft that the members fill. -/
private theorem readKeys_of_fills {fields : List (Field σ)} {draft draft' : σ}
    (h : Fills fields depth draft es draft') (ht : Spells (.members first es) t)
    (hfuel : es.length < fuel) (rest : Bytes) :
    Record.readKeys fields depth fuel first draft (t ++ rest) = .ok (draft', byte '\x7d' :: rest) := by
  induction h generalizing fuel first t with
  | nil =>
    -- there is more fuel than members, so some is left for the closing bracket
    obtain ⟨fuel, rfl⟩ := Nat.exists_eq_add_one_of_ne_zero (Nat.ne_zero_of_lt hfuel)
    cases ht with
    | noMember hbs =>
      rw [Record.readKeys, List.append_assoc, List.cons_append, List.nil_append,
        nextKey_noMember hbs]
  | unknown hfind _ ih =>
    obtain ⟨fuel, rfl⟩ := Nat.exists_eq_add_one_of_ne_zero (Nat.ne_zero_of_lt hfuel)
    cases ht with
    | member hsep hkey hbs hbs' hv hes =>
      simp only [List.append_assoc, List.cons_append]
      rw [Record.readKeys, nextKey_member hsep hkey]
      simp only [hfind, readColon_append hbs, Except.bind, hv.skip hbs' (hes.ends_members rest)]
      exact ih hes (Nat.lt_of_succ_lt_succ hfuel)
  | known hfind hfresh htakes _ ih =>
    obtain ⟨fuel, rfl⟩ := Nat.exists_eq_add_one_of_ne_zero (Nat.ne_zero_of_lt hfuel)
    cases ht with
    | member hsep hkey hbs hbs' hv hes =>
      simp only [List.append_assoc, List.cons_append]
      rw [Record.readKeys, nextKey_member hsep hkey]
      simp only [hfind, hfresh, readColon_append hbs, Except.bind,
        htakes hbs' hv (hes.ends_members rest)]
      exact ih hes (Nat.lt_of_succ_lt_succ hfuel)

/-- An object is read as what comes of the draft that its members fill. -/
theorem takes_record {record : Record σ α} {draft : σ} {a : α}
    (h : Fills record.fields depth record.start es draft) (ha : record.finish draft = .ok a) :
    Takes record.read (depth + 1) (.object es) a := by
  intro bs t rest hbs ht hrest
  cases ht with
  | @object es t ht =>
    have hfuel : es.length < (t ++ rest).length + 1 := by
      have hlt := ht.length_members
      rw [List.length_append]
      omega
    have hread := readKeys_of_fills h ht hfuel rest
    rw [Record.read, List.cons_append, skipBlanks_append_cons hbs (by decide)]
    simp only [show Start.of (byte '\x7b') = .object by decide, Record.readObject, hread, bind,
      Except.bind, ha, pure, Except.pure, List.drop_succ_cons, List.drop_zero]

/-! ### Some of the members, and others -/

/-- The keys of members. -/
def keysOf (es : List (String × Value)) : List String := es.map (·.1)

/-- What is written **carries** members: some of them and any others, in any order. No other has a key of
the members. -/
def Carries (members es : List (String × Value)) : Prop :=
  ∃ chosen others, chosen.Sublist members ∧ (∀ e ∈ others, e.1 ∉ keysOf members) ∧
    es.Perm (chosen ++ others)

/-- All members are written in their order, and no others. -/
theorem Carries.refl (members : List (String × Value)) : Carries members members :=
  ⟨members, [], .refl members, fun _ h => (nomatch h), by rw [List.append_nil]⟩

/-- What is still to be read when keys have been met: a key of the members comes with its value, once,
and not again if it has been met. -/
structure Remains (members : List (String × Value)) (met : String → Bool)
    (es : List (String × Value)) : Prop where
  mem : ∀ e ∈ es, e.1 ∈ keysOf members → e ∈ members
  once : ∀ key ∈ keysOf members, (keysOf es).count key + (met key).toNat ≤ 1

variable {members : List (String × Value)} {met : String → Bool}

theorem Carries.remains (hnodup : (keysOf members).Nodup) (h : Carries members es) :
    Remains members (fun _ => false) es := by
  obtain ⟨chosen, others, hchosen, hothers, hperm⟩ := h
  constructor
  · intro e he hkey
    rcases List.mem_append.mp (hperm.mem_iff.mp he) with hmem | hmem
    · exact hchosen.subset hmem
    · exact absurd hkey (hothers e hmem)
  · intro key hkey
    have hcount : (keysOf es).count key = (keysOf chosen).count key + (keysOf others).count key := by
      rw [keysOf, (hperm.map _).count_eq, List.map_append, List.count_append]
      rfl
    have hnone : (keysOf others).count key = 0 := by
      refine List.count_eq_zero.mpr fun hmem => ?_
      obtain ⟨e, he, rfl⟩ := List.mem_map.mp hmem
      exact hothers e he hkey
    have hle : (keysOf chosen).count key ≤ (keysOf members).count key :=
      (hchosen.map _).count_le key
    have hone := List.nodup_iff_count_le_one.mp hnodup key
    simp only [Bool.toNat_false]
    omega

theorem Remains.tail {e : String × Value} (h : Remains members met (e :: es)) :
    Remains members met es := by
  refine ⟨fun e' he' => h.mem e' (List.mem_cons_of_mem _ he'), fun key hkey => ?_⟩
  have hle : (keysOf es).count key ≤ (keysOf (e :: es)).count key := List.count_le_count_cons
  have honce := h.once key hkey
  omega

/-- A key that is read has not been met before, and is not met again. -/
theorem Remains.meet (h : Remains members met ((key, v) :: es)) (hkey : key ∈ keysOf members) :
    met key = false ∧ Remains members (Function.update met key true) es := by
  have honce := h.once key hkey
  have hcount : (keysOf ((key, v) :: es)).count key = (keysOf es).count key + 1 :=
    List.count_cons_self
  refine ⟨?_, h.tail.mem, fun key' hkey' => ?_⟩
  · cases hmet : met key with
    | false => rfl
    | true =>
      rw [hmet, Bool.toNat_true] at honce
      omega
  · by_cases heq : key' = key
    · subst heq
      rw [Function.update_self, Bool.toNat_true]
      omega
    · rw [Function.update_of_ne heq]
      exact h.tail.once key' hkey'

/-! ### Drafts by the keys that were met -/

/-- **How the draft of a record is collected** when members are written: it is a function of the keys of
fields that have been met, and a member that has not been met is taken by its field. -/
structure Collects (record : Record σ α) (depth : Nat) (members : List (String × Value))
    (draft : (String → Bool) → σ) : Prop where
  start : draft (fun _ => false) = record.start
  congr : ∀ {met met' : String → Bool}, (∀ key ∈ keysOf members, met key = met' key) →
    draft met = draft met'
  fields : record.fields.map (·.name) = keysOf members
  field : ∀ {key : String} {v : Value}, (key, v) ∈ members → ∀ {met : String → Bool},
    met key = false → ∃ f, record.fields.find? (·.name == key) = some f ∧
      f.given (draft met) = false ∧
      Takes (f.read (draft met)) depth v (draft (Function.update met key true))

variable {record : Record σ α} {draft : (String → Bool) → σ}

/-- What remains to be read fills the draft of the keys that were met, and leads to that of all keys. -/
theorem Collects.fills (h : Collects record depth members draft) (hremains : Remains members met es) :
    Fills record.fields depth (draft met) es (draft fun key => met key || (keysOf es).contains key) := by
  induction es generalizing met with
  | nil =>
    have heq : (fun key => met key || (keysOf []).contains key) = met :=
      funext fun key => Bool.or_false (met key)
    rw [heq]
    exact .nil
  | cons e es ih =>
    obtain ⟨key, v⟩ := e
    by_cases hkey : key ∈ keysOf members
    · -- a key of the record is taken by its field, and from then on it has been met
      obtain ⟨hfalse, hafter⟩ := hremains.meet hkey
      obtain ⟨f, hfind, hfresh, htakes⟩ :=
        h.field (hremains.mem _ List.mem_cons_self hkey) hfalse
      have heq : (fun key' => Function.update met key true key' || (keysOf es).contains key') =
          fun key' => met key' || (keysOf ((key, v) :: es)).contains key' := by
        funext key'
        by_cases hkey' : key' = key
        · simp [hkey', keysOf]
        · simp [Function.update_of_ne hkey', keysOf, beq_false_of_ne hkey']
      exact heq ▸ .known hfind hfresh htakes (ih hafter)
    · -- any other key is passed over, and the draft does not look at it
      have hfind : record.fields.find? (·.name == key) = none := by
        refine List.find?_eq_none.mpr fun f hf hname => hkey ?_
        rw [← h.fields, ← eq_of_beq hname]
        exact List.mem_map_of_mem hf
      have heq : draft (fun key' => met key' || (keysOf ((key, v) :: es)).contains key') =
          draft fun key' => met key' || (keysOf es).contains key' := by
        refine h.congr fun key' hkey' => ?_
        have hne : key' ≠ key := fun heq => hkey (heq ▸ hkey')
        simp [keysOf, beq_false_of_ne hne]
      exact heq ▸ .unknown hfind (ih hremains.tail)

/-- **A record that is spelled in part** is read as what the draft of the keys that are written amounts
to. -/
theorem Collects.takes (h : Collects record depth members draft) (hnodup : (keysOf members).Nodup)
    (hes : Carries members es) {a : α} (ha : record.finish (draft (keysOf es).contains) = .ok a) :
    Takes record.read (depth + 1) (.object es) a := by
  refine takes_record ?_ ha
  rw [← h.start]
  have hfills := h.fills (hes.remains hnodup)
  simp only [Bool.false_or] at hfills
  exact hfills

/-- A field that a draft keeps as an option takes a value if its own reader does. -/
theorem Field.of_takes {met : σ} {draft' : σ} {name : String} {get : σ → Option β} {set : σ → β → σ}
    {read : TypedReader β} {a : β} (h : Takes read depth v a) (hget : get met = none)
    (hset : set met a = draft') :
    (Field.of name get set read).given met = false ∧
      Takes ((Field.of name get set read).read met) depth v draft' :=
  ⟨by simp [Field.of, hget], hset ▸ h.map (set met)⟩

/-! ### Fields that have been met -/

section Written

variable {met' : String → Bool} {key' : String}

/-- A field that a draft has if its key has been met. -/
def written (met : String → Bool) (key : String) (a : α) : Option α :=
  if met key then some a else none

theorem written_eq_none (h : met key = false) (a : α) : written met key a = none := by
  simp [written, h]

theorem written_congr (h : met key = met' key) (a : α) : written met key a = written met' key a := by
  rw [written, written, h]

@[simp]
theorem written_update_self (met : String → Bool) (key : String) (a : α) :
    written (Function.update met key true) key a = some a := by
  simp [written]

@[simp]
theorem written_update_of_ne (h : key' ≠ key) (met : String → Bool) (a : α) :
    written (Function.update met key true) key' a = written met key' a :=
  written_congr (Function.update_of_ne h true met) a

/-- What is read of a field is what is written, or else its default. -/
theorem getD_written (keys : List String) (key : String) (a d : α) :
    (written keys.contains key a).getD d = if key ∈ keys then a else d := by
  by_cases h : key ∈ keys <;> simp [written, h]

end Written

end Deployer.Json
