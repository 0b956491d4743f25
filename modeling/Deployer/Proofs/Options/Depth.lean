import Deployer.Options
import Deployer.Proofs.Address.Appending

/-!
# How deep operations are

The depth of a path is the number of its segments, an empty one at its end not counted. An operation is
deeper than the address of its service if a piece of the operation path names a segment
(`blueprint_deepens`). Otherwise it has the address itself, and this can happen to options that are
accepted: they are refused for an operation path without characters, but `/`, `//` or `..` name no
segment either (`blueprint_bare`).

What counts is what is left of a piece when tabs and line ends are dropped. An empty segment or a dot
only closes a path; two dots take a segment away.
-/

namespace Deployer

open Url

namespace Url.Path

variable {path base : Path} {operation piece : List Char} {pieces : List (List Char)}

/-- The number of segments, an empty one at the end not counted. -/
def depth (path : Path) : Nat := if path.getLast? = some "" then path.length - 1 else path.length

/-- The number of segments that stay in front of the next one that is appended. -/
def room (path : Path) : Nat := if path = root then 0 else path.length

theorem depth_concat (path : Path) (s : String) :
    depth (path ++ [s]) = if s = "" then path.length else path.length + 1 := by
  simp [depth]

private theorem depth_le_room (path : Path) : path.depth ≤ path.room := by
  unfold depth room
  split_ifs with hlast hroot
  · simp [hroot, root]
  · exact Nat.sub_le _ _
  next hroot => exact absurd (by rw [hroot]; rfl) hlast
  · exact Nat.le_refl _

/-- There is as much room in front of an operation as the base path is deep; but `//` is taken for `/`. -/
private theorem depth_le_room_closed (hne : base ≠ ["", ""]) : base.depth ≤ base.closed.room := by
  rcases List.eq_nil_or_concat' base with rfl | ⟨init, s, rfl⟩
  · exact Nat.zero_le _
  by_cases hroot : (init ++ [s]) = root
  · rw [hroot]
    exact Nat.zero_le _
  rw [room, if_neg (closed_ne_root hroot hne), depth_concat, closed_append]
  split_ifs <;> simp_all

/-- What is left of a piece when tabs and line ends are dropped. -/
def kept (piece : List Char) : List Char := piece.filter (!isDropped ·)

/-- A piece that is no step up adds a segment, which is empty only if the piece names none. -/
theorem exists_appendPiece_eq_concat (path : Path) (hup : kept piece ≠ ['.', '.']) :
    ∃ s, appendPiece .segment path piece = (if path = root then [] else path) ++ [s] ∧
      (kept piece ≠ [] → kept piece ≠ ['.'] → s ≠ "") := by
  rw [appendPiece, push, ← kept, if_neg (mt isDoubleDot_percentEncode_iff.mp hup)]
  split
  next hsingle =>
    exact ⟨"", rfl, fun _ hdot => absurd (isSingleDot_percentEncode_iff.mp hsingle) hdot⟩
  next =>
    refine ⟨_, rfl, fun hne _ hempty => ?_⟩
    obtain ⟨c, cs, hcons⟩ := List.exists_cons_of_ne_nil hne
    rw [hcons, String.ofList_eq_empty_iff] at hempty
    exact List.append_ne_nil_of_left_ne_nil (encodeChar_ne_nil _ c) _ hempty

/-- An appended piece leaves all segments before it, -/
private theorem room_le_depth_appendPiece (path : Path) (hup : kept piece ≠ ['.', '.']) :
    path.room ≤ (appendPiece .segment path piece).depth := by
  obtain ⟨s, happend, -⟩ := exists_appendPiece_eq_concat path hup
  rw [happend, depth_concat, room]
  split_ifs <;> simp

/-- and is one more if it names one. -/
private theorem room_lt_depth_appendPiece (path : Path) (hup : kept piece ≠ ['.', '.'])
    (hne : kept piece ≠ []) (hdot : kept piece ≠ ['.']) :
    path.room < (appendPiece .segment path piece).depth := by
  obtain ⟨s, happend, hs⟩ := exists_appendPiece_eq_concat path hup
  rw [happend, depth_concat, if_neg (hs hne hdot), room]
  split_ifs <;> simp

private theorem depth_le_depth_foldl (hup : ∀ piece ∈ pieces, kept piece ≠ ['.', '.']) :
    path.depth ≤ (pieces.foldl (appendPiece .segment) path).depth := by
  induction pieces generalizing path with
  | nil => exact Nat.le_refl _
  | cons piece pieces ih =>
    obtain ⟨hpiece, hpieces⟩ := List.forall_mem_cons.mp hup
    calc path.depth
      _ ≤ path.room := depth_le_room path
      _ ≤ (appendPiece .segment path piece).depth := room_le_depth_appendPiece path hpiece
      _ ≤ _ := ih hpieces

/-- Pieces of which one names a segment lead deeper than there was room. -/
theorem room_lt_depth_foldl (hup : ∀ piece ∈ pieces, kept piece ≠ ['.', '.'])
    (hnames : ∃ piece ∈ pieces, kept piece ≠ [] ∧ kept piece ≠ ['.']) :
    path.room < (pieces.foldl (appendPiece .segment) path).depth := by
  induction pieces generalizing path with
  | nil =>
    obtain ⟨_, hmem, -⟩ := hnames
    cases hmem
  | cons piece pieces ih =>
    obtain ⟨hpiece, hpieces⟩ := List.forall_mem_cons.mp hup
    rcases (List.exists_mem_cons_iff ..).mp hnames with ⟨hne, hdot⟩ | hnames
    · calc path.room
        _ < (appendPiece .segment path piece).depth :=
          room_lt_depth_appendPiece path hpiece hne hdot
        _ ≤ _ := depth_le_depth_foldl hpieces
    · calc path.room
        _ ≤ (appendPiece .segment path piece).depth := room_le_depth_appendPiece path hpiece
        _ ≤ (appendPiece .segment path piece).room := depth_le_room _
        _ < _ := ih hpieces hnames

end Url.Path

namespace Options

/-- What an operation path adds to a base URL. -/
structure Deepens (base : Url) (operation : List Char) (url : Url) : Prop where
  /-- A path of which no piece names a segment has the address itself. -/
  bare : Path.namedPieces operation = [] → url = { base with path := base.path.closed }
  /-- A path of which a piece still names a segment when tabs and line ends are dropped is deeper, if no
  piece becomes a step up. -/
  deeper : base.path ≠ ["", ""] →
    (∀ piece ∈ Path.namedPieces operation, Path.kept piece ≠ ['.', '.']) →
    (∃ piece ∈ Path.namedPieces operation, Path.kept piece ≠ [] ∧ Path.kept piece ≠ ['.']) →
    base.path.depth < url.path.depth ∧ url ≠ base

private theorem deepens_operationUrl (base : Url) (operation : String) :
    Deepens base operation.toList (Address.operationUrl base operation) := by
  constructor
  · intro hbare
    rw [Address.operationUrl, Url.Path.extend, hbare]
    rfl
  · intro hbase hup hnames
    have hlt : base.path.depth < (Address.operationUrl base operation).path.depth :=
      Nat.lt_of_le_of_lt (Path.depth_le_room_closed hbase) (Path.room_lt_depth_foldl hup hnames)
    exact ⟨hlt, fun heq => Nat.lt_irrefl _ (heq ▸ hlt)⟩

/-- **Operations of accepted options** are deeper than the address if their paths name something. -/
theorem blueprint_deepens {o : Options} {b : Blueprint} (h : o.blueprint = .ok b) :
    Deepens b.base o.createPath.toList b.create ∧ Deepens b.base o.getPath.toList b.get := by
  obtain ⟨-, -, -, -, hcreate, hget⟩ := eq_of_blueprint_eq_ok h
  rw [hcreate, hget]
  exact ⟨deepens_operationUrl _ _, deepens_operationUrl _ _⟩

/-- A tab is dropped from a segment; slashes alone leave the base path as it is, less the one at its
end. -/
theorem blueprint_deepens_api :
    let o : Options := { Options.default with
      address := "[::1]:9000/api/", createPath := "/a\t/./b", getPath := "//" }
    ∃ b, o.blueprint = .ok b ∧ Deepens b.base o.createPath.toList b.create ∧
      Deepens b.base o.getPath.toList b.get ∧ b.base.path.text = "/api/" ∧
      b.create.path.text = "/api/a/b" ∧ b.base.path.depth = 1 ∧ b.create.path.depth = 3 ∧
      Path.namedPieces o.getPath.toList = [] ∧ b.get.path.text = "/api" := by
  intro o
  have hbase : Address.normalize "[::1]:9000/api/" =
      .ok ⟨.http, "", none, .ipv6 [0, 0, 0, 0, 0, 0, 0, 1], some 9000, ["api", ""], none, none⟩ := by
    rfl
  obtain ⟨b, hb, hpath⟩ : ∃ b, o.blueprint = .ok b ∧ b.base.path = ["api", ""] := by
    rw [blueprint, show o.address = "[::1]:9000/api/" from rfl, hbase]
    exact ⟨_, rfl, rfl⟩
  obtain ⟨hcreate, hget⟩ := blueprint_deepens hb
  obtain ⟨-, -, -, -, hcreateUrl, hgetUrl⟩ := eq_of_blueprint_eq_ok hb
  refine ⟨b, hb, hcreate, hget, ?_⟩
  rw [hcreateUrl, hgetUrl, Address.operationUrl, Address.operationUrl, hpath]
  dsimp only
  exact ⟨by decide, by decide +kernel, by decide, by decide +kernel, by decide, by decide +kernel⟩

/-- **Accepted options may send an operation to the bare address.** A slash is a path, and names no
segment. -/
theorem blueprint_bare :
    ∃ b, { Options.default with createPath := "/" }.blueprint = .ok b ∧ b.create = b.base ∧
      ¬ b.base.path.depth < b.create.path.depth :=
  ⟨_, by rfl, by rfl, by decide⟩

end Options

end Deployer
