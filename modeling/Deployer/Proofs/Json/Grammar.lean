import Deployer.Proofs.Json.Numeral

/-!
# The grammar of JSON

`Spells` says which texts spell a value, with blanks wherever they are allowed and brackets nested to any
depth. The members of an object are listed as they are written, in any order and with repeated keys.

What stands between two brackets is spelled from left to right, and what has been left off so far is a
`Part`: the items or members to come, and whether they are the first. A part extends to its closing
bracket, so nothing that follows can continue it; of values only numbers need to be told where they end
(`Ends`).

Whatever is spelled is passed over (`Spells.skip`). This is an induction over the spelling; the fuel that
it takes is bounded by twice the length of the text (`Part.Skips`), whatever the brackets are.
-/

namespace Deployer.Json

variable {s t u bs sep rest : Bytes} {b c : UInt8} {first : Bool} {v : Value}

/-! ### Values -/

/-- What stands before an item or a member: blanks, and a comma before all but the first. -/
inductive Separates : Bool → Bytes → Prop
  | first {bs : Bytes} (h : Blanks bs) : Separates true bs
  | next {bs bs' : Bytes} (h : Blanks bs) (h' : Blanks bs') :
    Separates false (bs ++ byte ',' :: bs')

/-- What a text may spell: a value, or what follows the opening bracket of an array or of an object, to
its closing bracket; `first` tells that nothing stands before it. -/
inductive Part where
  | value (v : Value)
  | items (first : Bool) (vs : List Value)
  | members (first : Bool) (es : List (String × Value))

/-- **The grammar of JSON.** The members of an object are listed as they are written. -/
inductive Spells : Part → Bytes → Prop
  | null : Spells (.value .null) (['n', 'u', 'l', 'l'].map byte)
  | true : Spells (.value (.bool true)) (['t', 'r', 'u', 'e'].map byte)
  | false : Spells (.value (.bool false)) (['f', 'a', 'l', 's', 'e'].map byte)
  | number {n : Number} {t : Bytes} (h : SpellsNumber n t) : Spells (.value (.number n)) t
  | string {text : String} {t : Bytes} (h : SpellsChars text.toList t) :
    Spells (.value (.string text)) (byte '"' :: (t ++ [byte '"']))
  | array {vs : List Value} {t : Bytes} (h : Spells (.items .true vs) t) :
    Spells (.value (.array vs)) (byte '[' :: t)
  | object {es : List (String × Value)} {t : Bytes} (h : Spells (.members .true es) t) :
    Spells (.value (.object es)) (byte '\x7b' :: t)
  | noItem {first : Bool} {bs : Bytes} (hbs : Blanks bs) :
    Spells (.items first []) (bs ++ [byte ']'])
  | item {first : Bool} {v : Value} {vs : List Value} {sep t u : Bytes} (hsep : Separates first sep)
    (hv : Spells (.value v) t) (hvs : Spells (.items .false vs) u) :
    Spells (.items first (v :: vs)) (sep ++ (t ++ u))
  | noMember {first : Bool} {bs : Bytes} (hbs : Blanks bs) :
    Spells (.members first []) (bs ++ [byte '\x7d'])
  | member {first : Bool} {key : String} {v : Value} {es : List (String × Value)}
    {sep k bs bs' t u : Bytes} (hsep : Separates first sep) (hkey : SpellsChars key.toList k)
    (hbs : Blanks bs) (hbs' : Blanks bs') (hv : Spells (.value v) t)
    (hes : Spells (.members .false es) u) :
    Spells (.members first ((key, v) :: es))
      (sep ++ byte '"' :: (k ++ byte '"' :: (bs ++ byte ':' :: (bs' ++ (t ++ u)))))

/-! ### First bytes -/

private theorem start_of_isDigit (h : isDigit b = true) : Start.of b = .number := by
  have hne {c : UInt8} (hc : isDigit c = false) : b ≠ c := by
    rintro rfl
    exact Bool.false_ne_true (hc.symm.trans h)
  rw [Start.of, if_neg (hne (by decide)), if_neg (hne (by decide)), if_neg (hne (by decide)),
    if_pos (.inr h)]

/-- A number begins with a sign or with a digit. -/
theorem start_of_readNumber {n : Number} {r : Bytes} (h : readNumber s = .ok (n, r)) :
    ∃ b u, s = b :: u ∧ Start.of b = .number := by
  cases s with
  | nil => cases h
  | cons b s =>
    refine ⟨b, s, rfl, ?_⟩
    by_cases hminus : b = byte '-'
    · rw [hminus]
      decide
    · simp only [readNumber, if_neg hminus] at h
      obtain ⟨⟨whole, r⟩, hwhole, -⟩ := bind_eq_ok.mp h
      by_cases hzero : b = byte '0'
      · rw [hzero]
        decide
      · refine start_of_isDigit (Bool.not_eq_false _ |>.mp fun hdigit => ?_)
        rw [readWhole.eq_def] at hwhole
        simp [hzero, hdigit] at hwhole

/-- A byte that begins no value is none of the separators. -/
theorem of_start (h : Start.of b ≠ .other) :
    isBlank b = false ∧ b ≠ byte ']' ∧ b ≠ byte '\x7d' ∧ b ≠ byte ',' := by
  refine ⟨?_, ?_, ?_, ?_⟩
  · refine Bool.eq_false_iff.mpr fun hblank => h ?_
    simp only [isBlank, Bool.or_eq_true, beq_iff_eq] at hblank
    rcases hblank with ((rfl | rfl) | rfl) | rfl <;> decide
  all_goals
    rintro rfl
    exact h (by decide)

theorem Spells.exists_cons (h : Spells (.value v) t) :
    ∃ b u, t = b :: u ∧ Start.of b ≠ .other := by
  cases h with
  | null | true | false | string | array | object => exact ⟨_, _, rfl, by decide⟩
  | number h =>
    obtain ⟨b, u, rfl, hb⟩ := start_of_readNumber h.read
    exact ⟨b, u, rfl, by rw [hb]; decide⟩

/-! ### Separators -/

theorem ends_append_cons (hbs : Blanks bs) (hb : Ends [b]) (s : Bytes) : Ends (bs ++ b :: s) :=
  Ends.append (fun c hc => hb c hc) hbs

theorem Separates.ends (h : Separates .false sep) (s : Bytes) : Ends (sep ++ s) := by
  cases h with
  | next hbs _ =>
    rw [List.append_assoc]
    exact ends_append_cons hbs (by intro b hb; cases hb; decide) _

/-- What follows an item or a member may follow a number. -/
theorem Spells.ends_items {vs : List Value} (h : Spells (.items .false vs) t) (rest : Bytes) :
    Ends (t ++ rest) := by
  cases h with
  | noItem hbs =>
    rw [List.append_assoc]
    exact ends_append_cons hbs (by intro b hb; cases hb; decide) _
  | item hsep =>
    rw [List.append_assoc]
    exact hsep.ends _

theorem Spells.ends_members {es : List (String × Value)} (h : Spells (.members .false es) t)
    (rest : Bytes) : Ends (t ++ rest) := by
  cases h with
  | noMember hbs =>
    rw [List.append_assoc]
    exact ends_append_cons hbs (by intro b hb; cases hb; decide) _
  | member hsep =>
    rw [List.append_assoc]
    exact hsep.ends _

/-- Behind a separator stands what it separates. -/
theorem Separates.skipBlanks (h : Separates first sep) (hc : isBlank c = false) (s : Bytes) :
    ∃ b r, skipBlanks (sep ++ c :: s) = b :: r ∧
      (first = .true ∧ b = c ∧ r = s ∨
        first = .false ∧ b = byte ',' ∧ Json.skipBlanks r = c :: s) := by
  cases h with
  | first hbs => exact ⟨c, s, skipBlanks_append_cons hbs hc s, .inl ⟨rfl, rfl, rfl⟩⟩
  | next hbs hbs' =>
    refine ⟨byte ',', _, ?_, .inr ⟨rfl, rfl, skipBlanks_append_cons hbs' hc s⟩⟩
    rw [List.append_assoc]
    exact skipBlanks_append_cons hbs (by decide) _

theorem readColon_append (h : Blanks bs) (s : Bytes) : readColon (bs ++ byte ':' :: s) = .ok s := by
  rw [readColon, skipBlanks_append_cons h (by decide)]
  exact if_pos rfl

/-! ### Passing over -/

theorem readWord_append (cs : List Char) (rest : Bytes) :
    readWord cs (cs.map byte ++ rest) = .ok rest := by
  induction cs with
  | nil => rfl
  | cons c cs ih => exact (if_pos rfl).trans ih

/-- No spelling is empty. -/
theorem Spells.length_pos {p : Part} (h : Spells p t) : 0 < t.length := by
  cases h with
  | null | true | false | string | array | object => exact Nat.succ_pos _
  | number h =>
    obtain ⟨b, u, rfl, -⟩ := start_of_readNumber h.read
    exact Nat.succ_pos _
  | noItem | noMember | member =>
    rw [List.length_append]
    exact Nat.lt_of_lt_of_le (Nat.succ_pos _) (Nat.le_add_left _ _)
  | item _ hv =>
    obtain ⟨b, u, rfl, -⟩ := hv.exists_cons
    simp only [List.length_append, List.length_cons]
    omega

/-- What it is to pass over a part, with fuel that is twice its length. -/
def Part.Skips : Part → Bytes → Prop
  | .value _, t => ∀ fuel rest, Ends rest → 2 * t.length ≤ fuel →
    skipValue fuel (t ++ rest) = .ok rest
  | .items first _, t => ∀ fuel rest, 2 * t.length ≤ fuel →
    skipItems fuel first (t ++ rest) = .ok rest
  | .members first _, t => ∀ fuel rest, 2 * t.length ≤ fuel →
    skipMembers fuel first (t ++ rest) = .ok rest

/-- A value is passed over by its first byte. -/
theorem skipValue_cons {fuel : Nat} (hb : Start.of b ≠ .other) (hfuel : 0 < fuel) (s : Bytes) :
    skipValue fuel (b :: s) =
      match Start.of b with
      | .null => readWord ['u', 'l', 'l'] s
      | .true => readWord ['r', 'u', 'e'] s
      | .false => readWord ['a', 'l', 's', 'e'] s
      | .number => skipNumber (b :: s)
      | .string => skipString s
      | .array => skipItems (fuel - 1) .true s
      | .object => skipMembers (fuel - 1) .true s
      | .other => refuseAt .noValue (b :: s) := by
  obtain ⟨fuel, rfl⟩ := Nat.exists_eq_add_one_of_ne_zero (Nat.ne_of_gt hfuel)
  rw [skipValue, skipBlanks_cons (of_start hb).1]
  rfl

theorem skipItems_noItem {fuel : Nat} (hbs : Blanks bs) (hfuel : 0 < fuel) (rest : Bytes) :
    skipItems fuel first (bs ++ ([byte ']'] ++ rest)) = .ok rest := by
  obtain ⟨fuel, rfl⟩ := Nat.exists_eq_add_one_of_ne_zero (Nat.ne_of_gt hfuel)
  rw [skipItems, skipBlanks_append hbs]
  rfl

/-- What passes over items takes the comma itself, and the blanks behind it with the item. -/
theorem skipItems_item {fuel : Nat} {r : Bytes} (hsep : Separates first sep)
    (hc : Start.of c ≠ .other) (hvalue : skipValue fuel (c :: s) = .ok r)
    (hitems : skipItems fuel .false r = .ok rest) :
    skipItems (fuel + 1) first (sep ++ c :: s) = .ok rest := by
  obtain ⟨b, r', hs, hcases⟩ := hsep.skipBlanks (of_start hc).1 s
  rw [skipItems, hs]
  rcases hcases with ⟨rfl, rfl, rfl⟩ | ⟨rfl, rfl, hr⟩
  · simp [(of_start hc).2.1, hvalue, hitems]
  · rw [← hr] at hvalue
    simp [show byte ',' ≠ byte ']' by decide, skipValue_of_skipBlanks hvalue, hitems]

theorem skipMembers_noMember {fuel : Nat} (hbs : Blanks bs) (hfuel : 0 < fuel) (rest : Bytes) :
    skipMembers fuel first (bs ++ ([byte '\x7d'] ++ rest)) = .ok rest := by
  obtain ⟨fuel, rfl⟩ := Nat.exists_eq_add_one_of_ne_zero (Nat.ne_of_gt hfuel)
  rw [skipMembers, skipBlanks_append hbs]
  rfl

theorem skipMembers_member {fuel : Nat} {key : String} {k r r' : Bytes} (hsep : Separates first sep)
    (hkey : SpellsChars key.toList k) (hcolon : readColon s = .ok r)
    (hvalue : skipValue fuel r = .ok r') (hmembers : skipMembers fuel .false r' = .ok rest) :
    skipMembers (fuel + 1) first (sep ++ byte '"' :: (k ++ byte '"' :: s)) = .ok rest := by
  have hread := readString_of_spells hkey s
  obtain ⟨b, u, hs, hcases⟩ := hsep.skipBlanks (show isBlank (byte '"') = .false by decide)
    (k ++ byte '"' :: s)
  rw [skipMembers, hs]
  rcases hcases with ⟨rfl, rfl, rfl⟩ | ⟨rfl, rfl, hu⟩
  · have hskip := skipKey_of_read (skipBlanks_cons (by decide) _) hread hcolon
    simp [show byte '"' ≠ byte '\x7d' by decide, hskip, hvalue, hmembers]
  · have hskip := skipKey_of_read hu hread hcolon
    simp [show byte ',' ≠ byte '\x7d' by decide, hskip, hvalue, hmembers]

/-- A spelling of a value is skipped as one value, whatever follows it. -/
theorem Spells.skips {p : Part} (h : Spells p t) : p.Skips t := by
  -- one step for each rule of the grammar; only a number does not tell its own end
  induction h with
  | null =>
    intro fuel rest _ hfuel
    exact (skipValue_cons (by decide) (by simp at hfuel; omega) _).trans (readWord_append _ rest)
  | true =>
    intro fuel rest _ hfuel
    exact (skipValue_cons (by decide) (by simp at hfuel; omega) _).trans (readWord_append _ rest)
  | false =>
    intro fuel rest _ hfuel
    exact (skipValue_cons (by decide) (by simp at hfuel; omega) _).trans (readWord_append _ rest)
  | number h =>
    intro fuel rest hrest hfuel
    obtain ⟨b, u, rfl, hb⟩ := start_of_readNumber h.read
    rw [List.cons_append, skipValue_cons (by rw [hb]; decide) (by simp at hfuel; omega), hb]
    exact (skipNumber_of_read (readNumber_append hrest h.read)).1
  | string h =>
    intro fuel rest _ hfuel
    rw [List.cons_append, List.append_assoc,
      skipValue_cons (by decide) (by simp at hfuel; omega)]
    exact (skipString_of_read (readString_of_spells h rest)).1
  | array h ih =>
    intro fuel rest _ hfuel
    rw [List.length_cons] at hfuel
    rw [List.cons_append, skipValue_cons (by decide) (by omega)]
    exact ih _ rest (by omega)
  | object h ih =>
    intro fuel rest _ hfuel
    rw [List.length_cons] at hfuel
    rw [List.cons_append, skipValue_cons (by decide) (by omega)]
    exact ih _ rest (by omega)
  | @noItem first bs hbs =>
    intro fuel rest hfuel
    simp only [List.length_append, List.length_singleton] at hfuel
    rw [List.append_assoc]
    exact skipItems_noItem hbs (by omega) rest
  | @item first v vs sep t u hsep hv hvs ihv ihvs =>
    intro fuel rest hfuel
    have hu := hvs.length_pos
    obtain ⟨c, t, rfl, hc⟩ := hv.exists_cons
    simp only [List.length_append, List.length_cons] at hfuel
    obtain ⟨fuel, rfl⟩ : ∃ n, fuel = n + 1 := ⟨fuel - 1, by omega⟩
    have hvalue := ihv fuel (u ++ rest) (hvs.ends_items rest) (by simp only [List.length_cons]; omega)
    have hitems := ihvs fuel rest (by omega)
    rw [List.append_assoc, List.append_assoc, List.cons_append]
    exact skipItems_item hsep hc hvalue hitems
  | @noMember first bs hbs =>
    intro fuel rest hfuel
    simp only [List.length_append, List.length_singleton] at hfuel
    rw [List.append_assoc]
    exact skipMembers_noMember hbs (by omega) rest
  | @member first key v es sep k bs bs' t u hsep hkey hbs hbs' hv hes ihv ihes =>
    intro fuel rest hfuel
    have hu := hes.length_pos
    have ht := hv.length_pos
    simp only [List.length_append, List.length_cons] at hfuel
    obtain ⟨fuel, rfl⟩ : ∃ n, fuel = n + 1 := ⟨fuel - 1, by omega⟩
    have hvalue : skipValue fuel (bs' ++ (t ++ (u ++ rest))) = .ok (u ++ rest) := by
      -- the blanks behind the colon go first
      refine skipValue_of_skipBlanks ?_
      obtain ⟨c, t, rfl, hc⟩ := hv.exists_cons
      rw [List.cons_append, skipBlanks_append_cons hbs' (of_start hc).1]
      exact ihv fuel (u ++ rest) (hes.ends_members rest) (by omega)
    have hmembers := ihes fuel rest (by omega)
    simp only [List.append_assoc, List.cons_append]
    exact skipMembers_member hsep hkey (readColon_append hbs _) hvalue hmembers

/-- **Whatever is spelled is passed over**, with the blanks before it. -/
theorem Spells.skip (h : Spells (.value v) t) (hbs : Blanks bs) (hrest : Ends rest) :
    skip (bs ++ (t ++ rest)) = .ok rest := by
  obtain ⟨b, u, rfl, hb⟩ := h.exists_cons
  refine skipValue_of_skipBlanks ?_
  rw [List.cons_append, skipBlanks_append_cons hbs (of_start hb).1]
  refine h.skips _ rest hrest ?_
  simp only [List.length_append, List.length_cons]
  omega

end Deployer.Json
