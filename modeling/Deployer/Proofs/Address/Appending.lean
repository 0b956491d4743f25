import Deployer.Proofs.Address.Operation
import Mathlib.Data.List.Forall2

/-!
# The exact path of an operation

`operationUrl_keeps_base` says what the URL of an operation keeps of the base URL. If the operation path
has neither tabs nor line ends, then nothing of it is dropped or resolved, and its URL is known exactly
(`operationUrl_path`): the base path less one slash at its end, and then a segment for each piece of the
operation path that names one. A segment holds no character that would end it, and decodes to its piece.

The reason is that every piece is then appended as it is (`extend_eq`): what is written for it is a dot
segment only if it is one itself, and it is never empty, so the path in front of the next piece is not
the root that an appended segment would replace.
-/

namespace Deployer.Url.Path

variable {path base : Path} {cs segment piece operation : List Char} {pieces : List (List Char)}

/-! ### Appending a piece that is no dot segment -/

/-- Every spelling of a dot decodes to a dot. -/
private theorem percentDecode_of_isSingleDot (h : isSingleDot segment = true) :
    percentDecode (segment.flatMap String.utf8EncodeChar) = ['.'].flatMap String.utf8EncodeChar := by
  have hall : ∀ a ∈ dots, percentDecode (a.flatMap String.utf8EncodeChar) =
      ['.'].flatMap String.utf8EncodeChar := by decide
  exact hall segment (List.contains_iff_mem.mp h)

/-- A dot is encoded as a single dot, and nothing else is. -/
theorem isSingleDot_percentEncode_iff :
    isSingleDot (percentEncode .segment cs) = true ↔ cs = ['.'] := by
  constructor
  · intro h
    have hpercent : EncodeSet.segment '%' = true := by decide
    refine eq_of_flatMap_utf8EncodeChar_eq ?_
    rw [← percentDecode_percentEncode hpercent cs]
    exact percentDecode_of_isSingleDot h
  · rintro rfl
    decide

/-- The segment that is written for a piece of an operation path. -/
def segmentOf (piece : List Char) : List Char := percentEncode .segment piece

/-- A piece of an operation path is **plain** if it names a segment and nothing is dropped from it. -/
structure Plain (piece : List Char) : Prop where
  ne_nil : piece ≠ []
  ne_dot : piece ≠ ['.']
  ne_dots : piece ≠ ['.', '.']
  kept : ∀ c ∈ piece, isDropped c = false

/-- Pieces of an operation path without tabs and line ends have none either. -/
private theorem plain_of_mem_namedPieces (hplain : ∀ c ∈ operation, isDropped c = false)
    (h : piece ∈ namedPieces operation) : Plain piece := by
  obtain ⟨hpiece, hnamed⟩ := List.mem_filter.mp h
  simp only [Bool.and_eq_true, Bool.not_eq_true', List.isEmpty_eq_false_iff, bne_iff_ne] at hnamed
  obtain ⟨⟨hne, hdot⟩, hdots⟩ := hnamed
  exact ⟨hne, hdot, hdots, fun c hc => hplain c (Text.mem_of_mem_pieces hpiece hc)⟩

/-- A plain piece is appended as it is. At the root it takes the place of the empty segment. -/
theorem Plain.appendPiece_eq (h : Plain piece) (path : Path) :
    appendPiece .segment path piece =
      (if path = root then [] else path) ++ [String.ofList (segmentOf piece)] := by
  have hfilter : piece.filter (!isDropped ·) = piece :=
    List.filter_eq_self.mpr fun c hc => by rw [h.kept c hc]; rfl
  have hsingle := mt isSingleDot_percentEncode_iff.mp h.ne_dot
  have hdouble := mt isDoubleDot_percentEncode_iff.mp h.ne_dots
  rw [appendPiece, hfilter]
  exact push_of_not_dots (Bool.not_eq_true _ ▸ hsingle) (Bool.not_eq_true _ ▸ hdouble)

/-- Something is written for a plain piece. -/
theorem Plain.segmentOf_ne_nil (h : Plain piece) : segmentOf piece ≠ [] := by
  obtain ⟨c, cs, rfl⟩ := List.exists_cons_of_ne_nil h.ne_nil
  exact List.append_ne_nil_of_left_ne_nil (encodeChar_ne_nil _ c) _

/-- So a plain piece never leaves the root. -/
theorem Plain.appendPiece_ne_root (h : Plain piece) (path : Path) :
    appendPiece .segment path piece ≠ root := by
  rw [h.appendPiece_eq]
  intro hroot
  have hlast : some (String.ofList (segmentOf piece)) = some "" :=
    List.getLast?_concat.symm.trans (congrArg List.getLast? hroot)
  exact h.segmentOf_ne_nil (String.ofList_eq_empty_iff.mp (Option.some.inj hlast))

/-- The segments of the pieces stand one after the other behind any path but the root. -/
private theorem foldl_appendPiece_eq (hpath : path ≠ root)
    (hpieces : ∀ piece ∈ pieces, Plain piece) :
    pieces.foldl (appendPiece .segment) path =
      path ++ (pieces.map segmentOf).map String.ofList := by
  induction pieces generalizing path with
  | nil => exact (List.append_nil path).symm
  | cons piece pieces ih =>
    obtain ⟨hpiece, hpieces⟩ := List.forall_mem_cons.mp hpieces
    have happend : appendPiece .segment path piece = path ++ [String.ofList (segmentOf piece)] := by
      rw [hpiece.appendPiece_eq, if_neg hpath]
    rw [List.foldl_cons, ih (hpiece.appendPiece_ne_root path) hpieces, happend, List.append_assoc]
    rfl

/-- **The path of an operation**: the segments of its pieces stand behind the base path, or in place of
it if that is the root. -/
theorem extend_eq (base : Path) (hplain : ∀ c ∈ operation, isDropped c = false)
    (hne : namedPieces operation ≠ []) :
    base.extend operation = (if base.closed = root then [] else base.closed) ++
      ((namedPieces operation).map segmentOf).map String.ofList := by
  have hpieces (piece : List Char) (h : piece ∈ namedPieces operation) : Plain piece :=
    plain_of_mem_namedPieces hplain h
  obtain ⟨piece, pieces, hcons⟩ := List.exists_cons_of_ne_nil hne
  rw [extend, hcons]
  rw [hcons] at hpieces
  obtain ⟨hpiece, hpieces⟩ := List.forall_mem_cons.mp hpieces
  rw [List.foldl_cons, foldl_appendPiece_eq (hpiece.appendPiece_ne_root _) hpieces,
    hpiece.appendPiece_eq, List.append_assoc]
  rfl

/-! ### Texts -/

private theorem write_map_ofList {segments : List (List Char)} (h : segments ≠ []) :
    write (segments.map String.ofList) = '/' :: Text.joined ['/'] segments := by
  rw [write_eq (mt List.map_eq_nil_iff.mp h), List.map_map]
  simp [Function.comp_def]

/-- Only the root has the text of the root. -/
theorem write_eq_slash_iff : path.write = ['/'] ↔ path = root := by
  constructor
  · intro h
    match path with
    | [] => cases h
    | [s] =>
      rw [write_cons, write, List.flatMap_nil, List.append_nil] at h
      rw [String.toList_eq_nil_iff.mp (List.cons.inj h).2]
      rfl
    | s :: t :: rest =>
      have hlength := congrArg List.length h
      simp only [write_cons, List.length_append, List.length_cons, List.length_nil] at hlength
      omega
  · rintro rfl
    rfl

/-- What stands before the segments of an operation: a base path less one slash at its end, if it is
longer than one slash. -/
def front (base : Path) : List Char :=
  if 1 < base.write.length then base.stem else base.write

/-- A base path is written as the front of the paths that extend it. -/
private theorem write_closed_eq_front (hne : base ≠ []) (hclean : Clean base) :
    base.closed.write = base.front := by
  by_cases hroot : base = root
  · rw [hroot]
    rfl
  · have hlength : 1 < base.write.length := by
      obtain ⟨s, rest, rfl⟩ := List.exists_cons_of_ne_nil hne
      by_contra hle
      refine hroot (write_eq_slash_iff.mp ?_)
      rw [write_cons, List.length_append, List.length_cons] at hle
      rw [write_cons, List.eq_nil_of_length_eq_zero (by omega : s.toList.length = 0),
        List.eq_nil_of_length_eq_zero (by omega : (write rest).length = 0)]
      rfl
    rw [write_closed hne hclean hroot, front, if_pos hlength]

/-- **The text of the path of an operation.** -/
theorem write_extend (hne : base ≠ []) (hclean : Clean base)
    (hplain : ∀ c ∈ operation, isDropped c = false) :
    (base.extend operation).write =
      if namedPieces operation = [] then base.front
      else base.front ++ (if base.front = ['/'] then [] else ['/']) ++
        Text.joined ['/'] ((namedPieces operation).map segmentOf) := by
  rw [← write_closed_eq_front hne hclean]
  split_ifs with hpieces hfront
  · rw [extend, hpieces, List.foldl_nil]
  · rw [extend_eq base hplain hpieces, if_pos (write_eq_slash_iff.mp hfront), hfront,
      List.nil_append, write_map_ofList (mt List.map_eq_nil_iff.mp hpieces)]
    rfl
  · rw [extend_eq base hplain hpieces, if_neg (mt write_eq_slash_iff.mpr hfront), write_append,
      write_map_ofList (mt List.map_eq_nil_iff.mp hpieces), List.append_assoc]
    rfl

/-- A segment **stands for** a piece if nothing in it would end it, and it decodes to the piece. -/
structure StandsFor (segment piece : List Char) : Prop where
  slash : '/' ∉ segment
  question : '?' ∉ segment
  hash : '#' ∉ segment
  decodes : percentDecodeText? (String.ofList segment) = some (String.ofList piece)

/-- A segment is decoded to the piece that it was made of. -/
private theorem standsFor_segmentOf (piece : List Char) : StandsFor (segmentOf piece) piece := by
  have hencoded {c : Char} (hset : EncodeSet.segment c = true) (hpercent : c ≠ '%')
      (halnum : ¬ c.isAlphanum) : c ∉ segmentOf piece := by
    intro hmem
    rcases mem_percentEncode hmem with h | h | ⟨-, h⟩
    · exact hpercent h
    · exact halnum h
    · exact Bool.false_ne_true (h.symm.trans hset)
  exact ⟨hencoded (by decide) (by decide) (by decide), hencoded (by decide) (by decide) (by decide),
    hencoded (by decide) (by decide) (by decide),
    percentDecodeText?_percentEncode (by decide) piece⟩

end Deployer.Url.Path

namespace Deployer.Address

open Url

/-- **The exact path of an operation.** Let the operation path have no tab and no line end. If none of
its pieces names a segment, then the path of its URL is the base path less one slash at its end, except
that `/` stays; otherwise that path is followed by a slash, unless it is `/`, and by a segment for each
piece, in order and with a slash between each two. A segment has none of `/`, `?` and `#`, and
percent-decodes to the piece. -/
theorem operationUrl_path {address : String} {base : Url} (h : normalize address = .ok base)
    {operation : String} (hplain : ∀ c ∈ operation.toList, Path.isDropped c = false) :
    ∃ url segments, operationUrl? (.hosted base) operation = .ok (.hosted url) ∧
      List.Forall₂ Path.StandsFor segments (Path.namedPieces operation.toList) ∧
      url.path.write =
        if segments = [] then base.path.front
        else base.path.front ++ (if base.path.front = ['/'] then [] else ['/']) ++
          Text.joined ['/'] segments := by
  obtain ⟨full, -, hroot⟩ := exists_root?_of_normalize h
  obtain ⟨_, rest, _, _, -, -, -, hbase⟩ := parse_eq_ok_iff.mp (root?_eq_some_iff.mp hroot).1
  have hpath : base.path = Path.parse (pathOf rest) := congrArg Url.path hbase
  have hne : base.path ≠ [] := hpath ▸ Path.parse_ne_nil (pathOf rest)
  have hclean : Path.Clean base.path := hpath ▸ Path.clean_parse (pathOf rest)
  refine ⟨operationUrl base operation, (Path.namedPieces operation.toList).map Path.segmentOf, rfl,
    ?_, ?_⟩
  · exact List.forall₂_map_left_iff.mpr
      (List.forall₂_same.mpr fun piece _ => Path.standsFor_segmentOf piece)
  · simp only [List.map_eq_nil_iff]
    exact Path.write_extend hne hclean hplain

/-- One slash goes from the end of the base path. The percent sign and `é` are encoded, empty pieces and
the dot between two slashes name nothing, and dots with more behind them are data. -/
theorem operationUrl_path_encoded :
    let operation := "/%2e//é?/./..#"
    ∃ base, normalize "[::1]:9000/api//" = .ok base ∧
      (∀ c ∈ operation.toList, Path.isDropped c = false) ∧
      base.path.front = "/api/".toList ∧
      Path.namedPieces operation.toList = ["%2e".toList, "é?".toList, "..#".toList] ∧
      (operationUrl base operation).path.text = "/api//%252e/%C3%A9%3F/..%23" ∧
      ∃ url segments, operationUrl? (.hosted base) operation = .ok (.hosted url) ∧
        List.Forall₂ Path.StandsFor segments (Path.namedPieces operation.toList) ∧
        url.path.write =
          if segments = [] then base.path.front
          else base.path.front ++ (if base.path.front = ['/'] then [] else ['/']) ++
            Text.joined ['/'] segments := by
  intro operation
  have hbase : normalize "[::1]:9000/api//" =
      .ok ⟨.http, "", none, .ipv6 [0, 0, 0, 0, 0, 0, 0, 1], some 9000, ["api", "", ""], none, none⟩ := by
    rfl
  have hplain : ∀ c ∈ operation.toList, Path.isDropped c = false := fun c hc =>
    Bool.eq_false_iff.mpr (List.any_eq_false.mp (by decide) c hc)
  exact ⟨_, hbase, hplain, by rfl, by decide +kernel, by decide +kernel,
    operationUrl_path hbase hplain⟩

end Deployer.Address
