import Deployer.Url.Path
import Deployer.Proofs.Text.Cutting
import Deployer.Proofs.Url.Encoding

/-!
# What appending keeps of a path

An operation path is appended to a base path piece by piece. A piece `..` is skipped; but a piece is
compared with `..` before tabs and line ends are dropped from it, and what is left is a dot segment all
the same. So the base path is kept only if the first piece that counts does not become one:

* `Clean`: no segment holds a slash; then the segments can be told from the text of a path.
* `isDoubleDot_percentEncode_iff`: nothing but two dots is encoded as a double dot, since the percent
  sign is encoded.
* `exists_appendPiece_eq`: once something stands after the base path, no piece removes more than that.
* `continues_stem_write_extend`: the text of the extended path is the text of the base path less one
  slash at its end, and then nothing or a slash and more, unless the first piece climbs.
* `continues_up_write_extend`: in any case no more than the last segment of the base path is lost.
-/

namespace Deployer.Url.Path

variable {path base front more : Path} {cs segment piece operation : List Char} {set : EncodeSet}

/-! ### Clean paths -/

/-- A path is **clean** if no segment holds a slash. -/
def Clean (path : Path) : Prop := ∀ segment ∈ path, '/' ∉ segment.toList

theorem Clean.append (h : Clean path) (hmore : Clean more) : Clean (path ++ more) :=
  fun segment hmem => (List.mem_append.mp hmem).elim (h segment) (hmore segment)

theorem clean_singleton (h : '/' ∉ segment) : Clean [String.ofList segment] := by
  intro s hs
  rw [List.mem_singleton.mp hs, String.toList_ofList]
  exact h

/-- A step up keeps the path or removes its last segment. -/
theorem up_eq (path : Path) : path.up = path ∨ path.up = path.dropLast := by
  unfold up
  split
  next => split <;> simp
  next => exact .inl rfl

theorem exists_eq_up_append (path : Path) : ∃ last, path = path.up ++ last := by
  rcases List.eq_nil_or_concat' path with rfl | ⟨init, s, rfl⟩
  · exact ⟨[], rfl⟩
  · rcases up_eq (init ++ [s]) with hup | hup
    · exact ⟨[], by rw [hup, List.append_nil]⟩
    · exact ⟨[s], by rw [hup, List.dropLast_concat]⟩

theorem Clean.up (h : Clean path) : Clean path.up := by
  rcases up_eq path with heq | heq <;> rw [heq]
  · exact h
  · exact fun segment hmem => h segment (List.dropLast_subset path hmem)

/-- A segment that is no dot segment is put at the end of a path. -/
theorem push_of_not_dots {last : Bool} (hsingle : isSingleDot segment = false)
    (hdouble : isDoubleDot segment = false) :
    path.push segment last = path ++ [String.ofList segment] := by
  rw [push, hdouble, hsingle, if_neg Bool.false_ne_true, if_neg Bool.false_ne_true]

/-- A segment that ends a path leaves at least one. -/
theorem push_ne_nil (path : Path) (segment : List Char) : path.push segment true ≠ [] := by
  unfold push
  split
  next => simp
  next => split <;> simp

/-- A path stays clean when a segment without slashes is pushed. -/
theorem Clean.push {last : Bool} (h : Clean path) (hsegment : '/' ∉ segment) :
    Clean (path.push segment last) := by
  have hempty : Clean (if last then [""] else []) := by
    cases last
    · exact fun _ hmem => nomatch hmem
    · exact clean_singleton (List.not_mem_nil : '/' ∉ [])
  unfold Path.push
  split
  next => exact h.up.append hempty
  next =>
    split
    next => exact h.append hempty
    next => exact h.append (clean_singleton hsegment)

theorem pushAll_ne_nil {segments : List (List Char)} (h : segments ≠ []) :
    path.pushAll segments ≠ [] := by
  induction segments generalizing path with
  | nil => exact absurd rfl h
  | cons s rest ih =>
    cases rest with
    | nil => exact push_ne_nil path s
    | cons t rest => exact ih (List.cons_ne_nil _ _)

theorem Clean.pushAll {segments : List (List Char)} (h : Clean path)
    (hsegments : ∀ segment ∈ segments, '/' ∉ segment) : Clean (path.pushAll segments) := by
  induction segments generalizing path with
  | nil => exact h
  | cons s rest ih =>
    have hpush {last : Bool} : Clean (path.push s last) := h.push (hsegments s List.mem_cons_self)
    cases rest with
    | nil => exact hpush
    | cons t rest => exact ih hpush fun u hu => hsegments u (List.mem_cons_of_mem _ hu)

/-- What separates segments is not written by encoding them. -/
private theorem slash_not_mem_percentEncode (h : '/' ∉ segment) :
    '/' ∉ percentEncode set segment := by
  intro hmem
  rcases mem_percentEncode hmem with heq | halnum | ⟨hsegment, -⟩
  · exact absurd heq (by decide)
  · exact absurd halnum (by decide)
  · exact h hsegment

/-- A path that is parsed is clean and has a segment. -/
theorem clean_parse (cs : List Char) : Clean (parse cs) := by
  refine Clean.pushAll (fun _ hmem => nomatch hmem) fun segment hmem => ?_
  obtain ⟨piece, hpiece, rfl⟩ := List.mem_map.mp hmem
  refine slash_not_mem_percentEncode fun hslash => ?_
  have hsep := Text.sep_eq_false_of_mem_pieces hpiece hslash
  exact absurd hsep (by decide)

theorem parse_ne_nil (cs : List Char) : parse cs ≠ [] :=
  pushAll_ne_nil (mt List.map_eq_nil_iff.mp (Text.pieces_ne_nil _ _))

/-! ### Texts of paths -/

theorem write_append (path more : Path) : (path ++ more).write = path.write ++ more.write :=
  List.flatMap_append

theorem write_cons (s : String) (path : Path) : write (s :: path) = '/' :: s.toList ++ path.write :=
  List.flatMap_cons

/-- A slash stands before each segment, so it stands before the first one and between each two. -/
theorem write_eq (h : path ≠ []) : path.write = '/' :: Text.joined ['/'] (path.map String.toList) := by
  induction path with
  | nil => exact absurd rfl h
  | cons s rest ih =>
    cases rest with
    | nil => exact List.append_nil _
    | cons t rest =>
      rw [write_cons, ih (List.cons_ne_nil _ _), List.map_cons, List.map_cons, List.map_cons, Text.joined,
        List.append_assoc]
      rfl

/-- A path begins with a slash. -/
private theorem head?_write (h : path ≠ []) : path.write.head? = some '/' := by
  obtain ⟨s, rest, rfl⟩ := List.exists_cons_of_ne_nil h
  rfl

private theorem write_eq_nil_or (path : Path) : path.write = [] ∨ path.write.head? = some '/' := by
  cases path with
  | nil => exact .inl rfl
  | cons s rest => exact .inr rfl

/-- Whether a text **continues** another: it is the same, or a slash and perhaps more follows. -/
def Continues (front whole : List Char) : Prop :=
  ∃ rest, whole = front ++ rest ∧ (rest = [] ∨ rest.head? = some '/')

theorem continues_iff {front whole : List Char} : Continues front whole ↔ front <+: whole ∧
    (whole.drop front.length = [] ∨ (whole.drop front.length).head? = some '/') := by
  constructor
  · rintro ⟨rest, rfl, hrest⟩
    rw [List.drop_left]
    exact ⟨List.prefix_append front rest, hrest⟩
  · rintro ⟨⟨rest, rfl⟩, hrest⟩
    rw [List.drop_left] at hrest
    exact ⟨rest, rfl, hrest⟩

instance (front whole : List Char) : Decidable (Continues front whole) :=
  decidable_of_iff _ continues_iff.symm

/-- A path with more segments continues the path. -/
theorem continues_write_append (path more : Path) : Continues path.write (path ++ more).write :=
  ⟨more.write, write_append path more, write_eq_nil_or more⟩

/-- The text of a path less one slash at its end. -/
def stem (path : Path) : List Char :=
  if path.write.getLast? = some '/' then path.write.dropLast else path.write

/-- The text of a path ends in a slash exactly if its last segment is empty. -/
theorem getLast?_write_append {s : String} (hs : '/' ∉ s.toList) :
    (path ++ [s]).write.getLast? = some '/' ↔ s = "" := by
  have hwrite : (path ++ [s]).write = path.write ++ '/' :: s.toList := by
    rw [write_append, write_cons]
    simp [write]
  rw [hwrite]
  constructor
  · intro hlast
    by_contra hne
    have hchars : s.toList ≠ [] := mt String.toList_eq_nil_iff.mp hne
    rw [List.getLast?_append_of_ne_nil _ (List.cons_ne_nil _ _), List.getLast?_cons_of_ne_nil hchars]
      at hlast
    exact hs (List.mem_of_getLast? hlast)
  · rintro rfl
    simp

/-- An empty last segment is left out, unless it is the only one. -/
theorem closed_append (path : Path) (s : String) :
    closed (path ++ [s]) = if path ≠ [] ∧ s = "" then path else path ++ [s] := by
  match path with
  | [] => rfl
  | [a] => simp [closed]
  | a :: b :: rest =>
    have hclosed : closed (a :: b :: rest ++ [s]) =
        if (a :: b :: rest ++ [s]).getLast? = some "" then (a :: b :: rest ++ [s]).dropLast
        else a :: b :: rest ++ [s] := rfl
    rw [hclosed, List.getLast?_concat, List.dropLast_concat]
    simp

theorem closed_ne_nil (h : path ≠ []) : path.closed ≠ [] := by
  obtain ⟨init, s, rfl⟩ := (List.eq_nil_or_concat' path).resolve_left h
  rw [closed_append]
  split
  next hinit => exact hinit.1
  next => exact h

/-- Only the paths `/` and `//` become `/`. -/
theorem closed_ne_root (hroot : path ≠ root) (hdouble : path ≠ ["", ""]) : path.closed ≠ root := by
  rcases List.eq_nil_or_concat' path with rfl | ⟨init, s, rfl⟩
  · exact (List.cons_ne_nil "" []).symm
  · rw [closed_append]
    split
    next h =>
      rintro rfl
      exact hdouble (by rw [h.2]; rfl)
    next => exact hroot

/-- A path that is closed has the text of the path less one slash at its end. -/
theorem write_closed (hne : path ≠ []) (hclean : Clean path) (hroot : path ≠ root) :
    path.closed.write = path.stem := by
  obtain ⟨init, s, rfl⟩ := (List.eq_nil_or_concat' path).resolve_left hne
  have hslash : '/' ∉ s.toList := hclean s (List.mem_append_right _ List.mem_cons_self)
  rw [closed_append, stem]
  by_cases hs : s = ""
  · have hinit : init ≠ [] := by
      rintro rfl
      exact hroot (congrArg (fun s => [s]) hs)
    rw [if_pos ⟨hinit, hs⟩, if_pos ((getLast?_write_append hslash).mpr hs), hs, write_append]
    exact List.dropLast_concat.symm
  · rw [if_neg fun h => hs h.2, if_neg (mt (getLast?_write_append hslash).mp hs)]

/-! ### Dots in pieces -/

/-- Every spelling of a double dot decodes to two dots. -/
private theorem percentDecode_of_isDoubleDot (h : isDoubleDot segment = true) :
    percentDecode (segment.flatMap String.utf8EncodeChar) =
      ['.', '.'].flatMap String.utf8EncodeChar := by
  obtain ⟨a, ha, h⟩ := List.any_eq_true.mp h
  obtain ⟨b, hb, h⟩ := List.any_eq_true.mp h
  rw [beq_iff_eq.mp h]
  have hall : ∀ a ∈ dots, ∀ b ∈ dots, percentDecode ((a ++ b).flatMap String.utf8EncodeChar) =
      ['.', '.'].flatMap String.utf8EncodeChar := by decide
  exact hall a ha b hb

/-- Two dots are encoded as a double dot, and nothing else is. -/
theorem isDoubleDot_percentEncode_iff :
    isDoubleDot (percentEncode .segment cs) = true ↔ cs = ['.', '.'] := by
  constructor
  · intro h
    have hpercent : EncodeSet.segment '%' = true := by decide
    refine eq_of_flatMap_utf8EncodeChar_eq ?_
    rw [← percentDecode_percentEncode hpercent cs]
    exact percentDecode_of_isDoubleDot h
  · rintro rfl
    decide

/-! ### Extending -/

/-- An operation path **climbs** if the first of its pieces that name a segment becomes a double dot
when tabs and line ends are dropped from it. A piece that is one to begin with names no segment. -/
def Climbs (operation : List Char) : Prop :=
  (namedPieces operation).head?.map (List.filter (!isDropped ·)) = some ['.', '.']

instance (operation : List Char) : Decidable (Climbs operation) :=
  inferInstanceAs (Decidable (_ = _))

theorem appendPiece_ne_nil (set : EncodeSet) (path : Path) (piece : List Char) :
    appendPiece set path piece ≠ [] :=
  push_ne_nil _ _

/-- A piece is pushed as it is encoded, unless the path is empty. -/
private theorem appendPiece_of_ne_root (h : path ≠ root) : appendPiece set path piece =
    path.push (percentEncode set (piece.filter (!isDropped ·))) true := by
  rw [appendPiece, if_neg h]

/-- A first piece that does not become a double dot leaves what stands before it. -/
private theorem exists_appendPiece_eq_of_ne (h : front ≠ root)
    (hpiece : piece.filter (!isDropped ·) ≠ ['.', '.']) :
    ∃ more, more ≠ [] ∧ appendPiece .segment front piece = front ++ more := by
  rw [appendPiece_of_ne_root h, push, if_neg (mt isDoubleDot_percentEncode_iff.mp hpiece)]
  split
  · exact ⟨[""], List.cons_ne_nil _ _, rfl⟩
  · exact ⟨_, List.cons_ne_nil _ _, rfl⟩

/-- A piece removes at most one segment, and another takes its place. -/
theorem exists_appendPiece_eq (set : EncodeSet) (hfront : front ≠ []) (hmore : more ≠ [])
    (piece : List Char) :
    ∃ more', more' ≠ [] ∧ appendPiece set (front ++ more) piece = front ++ more' := by
  have hroot : front ++ more ≠ root := by
    intro heq
    have hlength := congrArg List.length heq
    have hfront' := List.length_pos_of_ne_nil hfront
    have hmore' := List.length_pos_of_ne_nil hmore
    rw [List.length_append, root, List.length_singleton] at hlength
    omega
  rw [appendPiece_of_ne_root hroot, push]
  split
  · rcases up_eq (front ++ more) with hup | hup <;> rw [hup]
    · exact ⟨more ++ [""], by simp, List.append_assoc _ _ _⟩
    · rw [List.dropLast_append_of_ne_nil hmore]
      exact ⟨more.dropLast ++ [""], by simp, List.append_assoc _ _ _⟩
  · split
    · exact ⟨more ++ [""], by simp, List.append_assoc _ _ _⟩
    · exact ⟨_, List.append_ne_nil_of_left_ne_nil hmore _, List.append_assoc _ _ _⟩

/-- Once something stands after a path, the path is kept. -/
private theorem exists_foldl_appendPiece_eq (hfront : front ≠ []) (hmore : more ≠ [])
    (pieces : List (List Char)) :
    ∃ more', pieces.foldl (appendPiece set) (front ++ more) = front ++ more' := by
  induction pieces generalizing more with
  | nil => exact ⟨more, rfl⟩
  | cons piece pieces ih =>
    obtain ⟨more', hmore', heq⟩ := exists_appendPiece_eq set hfront hmore piece
    rw [List.foldl_cons, heq]
    exact ih hmore'

/-- An operation path that does not climb is appended to a path that is closed. -/
theorem exists_extend_eq (hne : base.closed ≠ []) (hroot : base.closed ≠ root)
    (hclimbs : ¬ Climbs operation) : ∃ more, base.extend operation = base.closed ++ more := by
  unfold extend
  cases hpieces : namedPieces operation with
  | nil => exact ⟨[], (List.append_nil _).symm⟩
  | cons piece pieces =>
    have hpiece : piece.filter (!isDropped ·) ≠ ['.', '.'] := by
      intro heq
      rw [Climbs, hpieces, List.head?_cons, Option.map_some, heq] at hclimbs
      exact hclimbs rfl
    obtain ⟨more, hmore, heq⟩ := exists_appendPiece_eq_of_ne hroot hpiece
    rw [List.foldl_cons, heq]
    exact exists_foldl_appendPiece_eq hne hmore pieces

/-- Even a first piece that climbs removes one segment at most. -/
private theorem exists_appendPiece_eq_up (set : EncodeSet) (h : front.up ≠ []) (piece : List Char) :
    ∃ more, more ≠ [] ∧ appendPiece set front piece = front.up ++ more := by
  have hroot : front ≠ root := by
    rintro rfl
    exact h rfl
  obtain ⟨last, hlast⟩ := exists_eq_up_append front
  have happend (s : String) : ∃ more, more ≠ [] ∧ front ++ [s] = front.up ++ more :=
    ⟨last ++ [s], by simp, by rw [← List.append_assoc, ← hlast]⟩
  rw [appendPiece_of_ne_root hroot, push]
  split
  · exact ⟨[""], List.cons_ne_nil _ _, rfl⟩
  · split
    · exact happend ""
    · exact happend _

/-- Every operation path keeps the base path but for its last segment. -/
private theorem exists_extend_eq_up (base : Path) (operation : List Char) :
    ∃ more, base.extend operation = base.closed.up ++ more := by
  -- a base path of one segment may be lost as a whole
  by_cases hup : base.closed.up = []
  · exact ⟨_, by rw [hup, List.nil_append]⟩
  · unfold extend
    cases namedPieces operation with
    | nil => exact exists_eq_up_append base.closed
    | cons piece pieces =>
      obtain ⟨more, hmore, heq⟩ := exists_appendPiece_eq_up .segment hup piece
      rw [List.foldl_cons, heq]
      exact exists_foldl_appendPiece_eq hup hmore pieces

theorem foldl_appendPiece_ne_nil (h : path ≠ []) (pieces : List (List Char)) :
    pieces.foldl (appendPiece set) path ≠ [] := by
  induction pieces generalizing path with
  | nil => exact h
  | cons piece pieces ih => exact ih (appendPiece_ne_nil set path piece)

/-- Every operation path keeps the text of the base path but for its last segment. -/
theorem continues_up_write_extend (base : Path) (operation : List Char) :
    Continues base.closed.up.write (base.extend operation).write := by
  obtain ⟨more, hmore⟩ := exists_extend_eq_up base operation
  rw [hmore]
  exact continues_write_append _ more

/-- **What appending keeps** is the text of the base path less one slash at its end. Of the path `/`
nothing has to be kept. -/
theorem continues_stem_write_extend (hne : base ≠ []) (hclean : Clean base)
    (h : base = root ∨ base ≠ ["", ""] ∧ ¬ Climbs operation) :
    Continues base.stem (base.extend operation).write := by
  by_cases hroot : base = root
  · subst hroot
    have hextend : extend root operation ≠ [] := foldl_appendPiece_ne_nil hne _
    exact ⟨_, rfl, .inr (head?_write hextend)⟩
  · obtain ⟨hdouble, hclimbs⟩ := h.resolve_left hroot
    obtain ⟨more, hmore⟩ :=
      exists_extend_eq (closed_ne_nil hne) (closed_ne_root hroot hdouble) hclimbs
    rw [hmore, ← write_closed hne hclean hroot]
    exact continues_write_append _ more

end Deployer.Url.Path
