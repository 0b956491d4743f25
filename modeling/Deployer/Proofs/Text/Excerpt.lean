import Deployer.Proofs.Text.Bytes

/-!
# Excerpts of a text

An excerpt is cut at a byte, which may be any byte of a character. Whatever is left of the character that
is cut is one ill-formed piece (`scan_of_append_eq`), and the characters before it are read as they are.
So an excerpt of a text consists of the characters that fit as a whole (`LongestFit`), one mark for the
character that was cut, if any was, and the length of the text (`excerpt_bytes`).

That the piece is one needs no look at the forms of two, three and four bytes. A reader that has read
something before the cut, or has nothing under way at it, would have to read more than one character in
the bytes of one.
-/

namespace Deployer.Utf8

variable {state : Option Pending} {xs ys : Bytes} {c : Char} {limit : Nat}
  {cs ps : List Char}

/-! ### The character that is cut -/

/-- A byte is read, or it is under way. -/
theorem exists_scan_cons (state : Option Pending) (b : UInt8) :
    ∃ before after, (∀ ys, scan state (b :: ys) = before ++ scan after ys) ∧
      (before ≠ [] ∨ after ≠ none) := by
  have hopened : ∃ before after, (∀ ys, scan none (b :: ys) = before ++ scan after ys) ∧
      (before ≠ [] ∨ after ≠ none) := by
    cases hlead : lead b with
    | plain c =>
      exact ⟨[some c], none, fun ys => by rw [scan, hlead]; rfl, .inl (List.cons_ne_nil _ _)⟩
    | opens p => exact ⟨[], some p, fun ys => by rw [scan, hlead]; rfl, .inr (Option.some_ne_none p)⟩
    | stray => exact ⟨[none], none, fun ys => by rw [scan, hlead]; rfl, .inl (List.cons_ne_nil _ _)⟩
  cases state with
  | none => exact hopened
  | some p =>
    by_cases hb : p.low ≤ b ∧ b ≤ p.high
    · obtain ⟨_ | more, low, high, bits⟩ := p
      · exact ⟨[some _], none, fun ys => by rw [scan, if_pos hb]; rfl, .inl (List.cons_ne_nil _ _)⟩
      · exact ⟨[], some _, fun ys => by rw [scan, if_pos hb]; rfl, .inr (Option.some_ne_none _)⟩
    · obtain ⟨before, after, hsplit, -⟩ := hopened
      exact ⟨none :: before, after, fun ys => by rw [scan_cut hb, hsplit]; rfl,
        .inl (List.cons_ne_nil _ _)⟩

/-- Bytes that stand before others are read in part, and in part under way. If there are any, then not
both of these can be missing. -/
theorem exists_scan_append (state : Option Pending) (xs : Bytes) :
    ∃ before after, (∀ ys, scan state (xs ++ ys) = before ++ scan after ys) ∧
      (before = [] → after = none → xs = [] ∧ state = none) := by
  induction xs generalizing state with
  | nil => exact ⟨[], state, fun _ => rfl, fun _ h => ⟨rfl, h⟩⟩
  | cons b xs ih =>
    obtain ⟨first, between, hfirst, hbetween⟩ := exists_scan_cons state b
    obtain ⟨before, after, hsplit, hnone⟩ := ih between
    refine ⟨first ++ before, after, fun ys => ?_, fun hbefore hafter => ?_⟩
    · rw [List.cons_append, hfirst, hsplit, List.append_assoc]
    · obtain ⟨hnil, hnil'⟩ := List.append_eq_nil_iff.mp hbefore
      exact absurd (hnone hnil' hafter).2 (hbetween.resolve_left (not_not_intro hnil))

/-- Only where there is nothing is nothing read. -/
theorem eq_nil_of_scan_eq_nil (h : scan state xs = []) : xs = [] := by
  obtain ⟨before, after, hsplit, hnone⟩ := exists_scan_append state xs
  have hnil := hsplit []
  rw [List.append_nil, h] at hnil
  obtain ⟨hbefore, hafter⟩ := List.append_eq_nil_iff.mp hnil.symm
  cases after with
  | none => exact (hnone hbefore rfl).1
  | some p => cases hafter

/-- **What is left of a character that is cut is one ill-formed piece**, wherever it is cut. -/
theorem scan_of_append_eq (hxs : xs ≠ []) (hys : ys ≠ [])
    (h : xs ++ ys = String.utf8EncodeChar c) : scan none xs = [none] := by
  obtain ⟨before, after, hsplit, hnone⟩ := exists_scan_append none xs
  have hwhole : before ++ scan after ys = [some c] := by
    rw [← hsplit, h, ← List.append_nil (String.utf8EncodeChar c), scan_utf8EncodeChar]
    rfl
  -- the one character is read in the bytes behind the cut, so none is read before it
  have hbefore : before = [] := by
    rcases List.append_eq_singleton_iff.mp hwhole with ⟨hnil, -⟩ | ⟨-, hnil⟩
    · exact hnil
    · exact absurd (eq_nil_of_scan_eq_nil hnil) hys
  have hcut := hsplit []
  rw [List.append_nil, hbefore, List.nil_append] at hcut
  cases after with
  | none => exact absurd (hnone hbefore rfl).1 hxs
  | some p => exact hcut

/-! ### The characters that fit -/

/-- The characters at the beginning of a text that fit so many bytes as a whole. -/
def fitting (limit : Nat) : List Char → List Char
  | [] => []
  | c :: cs =>
    if (String.utf8EncodeChar c).length ≤ limit then
      c :: fitting (limit - (String.utf8EncodeChar c).length) cs
    else []

private theorem fitting_prefix (limit : Nat) (cs : List Char) : fitting limit cs <+: cs := by
  induction cs generalizing limit with
  | nil => exact List.nil_prefix
  | cons c cs ih =>
    rw [fitting]
    split_ifs
    · exact List.cons_prefix_cons.mpr ⟨rfl, ih _⟩
    · exact List.nil_prefix

private theorem length_fitting_le (limit : Nat) (cs : List Char) :
    ((fitting limit cs).flatMap String.utf8EncodeChar).length ≤ limit := by
  induction cs generalizing limit with
  | nil => exact Nat.zero_le _
  | cons c cs ih =>
    rw [fitting]
    split_ifs with hle
    · have hrest := ih (limit - (String.utf8EncodeChar c).length)
      rw [List.flatMap_cons, List.length_append]
      omega
    · exact Nat.zero_le _

/-- Whatever begins the text and fits is among these characters. -/
private theorem prefix_fitting (h : ps <+: cs)
    (hfits : (ps.flatMap String.utf8EncodeChar).length ≤ limit) :
    ps <+: fitting limit cs := by
  induction cs generalizing limit ps with
  | nil => exact h
  | cons c cs ih =>
    cases ps with
    | nil => exact List.nil_prefix
    | cons d ps =>
      obtain ⟨rfl, hps⟩ := List.cons_prefix_cons.mp h
      rw [List.flatMap_cons, List.length_append] at hfits
      rw [fitting, if_pos (by omega)]
      exact List.cons_prefix_cons.mpr ⟨rfl, ih hps (by omega)⟩

/-- **A text that is cut** is read as the characters that fit, and one ill-formed piece if they leave room. -/
theorem scan_take (h : limit < (cs.flatMap String.utf8EncodeChar).length) :
    scan none ((cs.flatMap String.utf8EncodeChar).take limit) =
      (fitting limit cs).map some ++
        if ((fitting limit cs).flatMap String.utf8EncodeChar).length < limit then [none] else [] := by
  induction cs generalizing limit with
  | nil => exact absurd h (Nat.not_lt_zero _)
  | cons c cs ih =>
    rw [List.flatMap_cons, List.length_append] at h
    rw [List.flatMap_cons, fitting]
    by_cases hle : (String.utf8EncodeChar c).length ≤ limit
    · -- the character fits, and leaves less room for the others
      have hroom : ∀ n, (String.utf8EncodeChar c).length + n < limit ↔
          n < limit - (String.utf8EncodeChar c).length := fun n => by omega
      rw [if_pos hle, List.take_append, List.take_of_length_le hle, scan_utf8EncodeChar,
        ih (by omega), List.flatMap_cons, List.length_append]
      simp only [hroom]
      rfl
    · rw [if_neg hle, List.take_append_of_le_length (Nat.le_of_not_le hle)]
      rcases Nat.eq_zero_or_pos limit with rfl | hpos
      · rfl
      · have hleft : (String.utf8EncodeChar c).take limit ≠ [] :=
          List.ne_nil_of_length_pos (by rw [List.length_take]; omega)
        have hright : (String.utf8EncodeChar c).drop limit ≠ [] :=
          List.ne_nil_of_length_pos (by rw [List.length_drop]; omega)
        rw [scan_of_append_eq hleft hright (List.take_append_drop _ _)]
        exact (if_pos hpos).symm

/-! ### The excerpt -/

/-- The longest beginning of a text, in whole characters, that takes at most so many bytes. -/
structure LongestFit (limit : Nat) (s p : String) : Prop where
  begins : p.toList <+: s.toList
  fits : (Text.bytes p).length ≤ limit
  longest : ∀ p' : String, p'.toList <+: s.toList → (Text.bytes p').length ≤ limit →
    p'.toList <+: p.toList

private theorem longestFit_fitting (limit : Nat) (s : String) :
    LongestFit limit s (String.ofList (fitting limit s.toList)) where
  begins := by
    rw [String.toList_ofList]
    exact fitting_prefix limit s.toList
  fits := by
    rw [Text.bytes, String.toList_ofList]
    exact length_fitting_le limit s.toList
  longest p' hbegins hfits := by
    rw [String.toList_ofList]
    exact prefix_fitting hbegins hfits

theorem lossy_bytes (s : String) : lossy (Text.bytes s) = s := by
  rw [lossy, Text.bytes, scan_flatMap_utf8EncodeChar, List.map_map]
  exact (congrArg String.ofList (List.map_id s.toList)).trans String.ofList_toList

theorem lossy_take {s : String} (h : limit < (Text.bytes s).length) :
    lossy ((Text.bytes s).take limit) = String.ofList (fitting limit s.toList) ++
      if (Text.bytes (String.ofList (fitting limit s.toList))).length < limit then "\uFFFD" else "" := by
  rw [lossy, Text.bytes, scan_take h, List.map_append, List.map_map, String.ofList_append, Text.bytes,
    String.toList_ofList]
  refine congrArg₂ _ (congrArg String.ofList (List.map_id _)) ?_
  split_ifs <;> rfl

/-- **At most one character of a text is lost where it is cut.** An excerpt of a text that is short enough is
the text. Any other consists of the longest part of the text that fits in whole characters, one mark if this
part leaves room, and the length of the text. -/
theorem excerpt_bytes (limit : Nat) (s : String) :
    ∃ p, LongestFit limit s p ∧ excerpt limit (Text.bytes s) =
      if (Text.bytes s).length ≤ limit then s
      else p ++ (if (Text.bytes p).length < limit then "\uFFFD" else "") ++
        s!"... ({(Text.bytes s).length} bytes total)" := by
  refine ⟨_, longestFit_fitting limit s, ?_⟩
  by_cases hle : (Text.bytes s).length ≤ limit
  · rw [excerpt, if_pos hle, if_pos hle, lossy_bytes]
  · rw [excerpt, if_neg hle, if_neg hle, lossy_take (Nat.lt_of_not_le hle)]

/-- The limit lies within the second character. -/
example : excerpt 3 (Text.bytes "éééé") = "é\uFFFD... (8 bytes total)" := by
  decide

end Deployer.Utf8
