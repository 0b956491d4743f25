import Deployer.Deployment
import Deployer.Proofs.Json.Printing
import Deployer.Proofs.Json.Reading
import Mathlib

/-!
# The text of a deployment

A deployment may be spelled in many ways, but what is written of it depends on nothing but the deployment:
the fields stand in one order, without blanks, strings have one form, and the members of a `spec` are in
order since it was read (`readable_of_parse`).

This text is read as the deployment that was written (`parse_text`). A `spec` comes back with as many
brackets open as when it was read first, so the bound on brackets does not cut it off. Numbers of a `spec`
are integers here.
-/

namespace Deployer

open Json

namespace Deployment

variable (d : Deployment)

/-! ### What is written -/

/-- The value of a name: a string, or `null` for none. -/
def nameValue : Value := (d.name.map Value.string).getD .null

/-- The members of a deployment with those that may be left out. -/
def allMembers : List (String × Value) :=
  [("id", .string d.id), ("status", .string d.status), ("name", d.nameValue), ("spec", d.spec)]

private theorem members_sublist : d.members.Sublist d.allMembers := by
  obtain ⟨id, status, _ | name, spec⟩ := d <;> cases hnull : spec.isNull <;>
    simp [members, allMembers, nameValue, hnull]

/-- The fields that are written are among those there are, and no others are written. -/
private theorem carries_members : Carries d.allMembers d.members :=
  ⟨d.members, [], d.members_sublist, fun _ h => (nomatch h), by rw [List.append_nil]⟩

variable {d}

private theorem integral_members (h : d.spec.Integral) : (Value.object d.members).Integral := by
  refine .object fun e he => ?_
  have hname : d.nameValue.Integral := by
    rw [nameValue]
    cases d.name with
    | none => exact .null
    | some name => exact .string name
  have hall : ∀ e ∈ d.allMembers, e.2.Integral := by
    simp only [allMembers, List.forall_mem_cons]
    exact ⟨.string _, .string _, hname, h, fun _ h => nomatch h⟩
  exact hall e (d.members_sublist.subset he)

/-! ### What is read -/

/-- The draft of a deployment when some keys have been met. -/
def Draft.met (d : Deployment) (met : String → Bool) : Draft :=
  ⟨written met "id" d.id, written met "status" d.status, written met "name" d.name,
    written met "spec" d.spec⟩

private theorem takes_nameValue (d : Deployment) (depth : Nat) :
    Takes (readOptional readText) depth d.nameValue d.name := by
  rw [nameValue]
  cases d.name with
  | none => exact takes_readOptional_null readText depth
  | some name => exact takes_readOptional_text depth name

theorem collects {depth : Nat} (h : d.spec.Readable depth) :
    Collects record depth d.allMembers (Draft.met d) where
  start := rfl
  congr h := by
    simp only [keysOf, allMembers, List.map, List.forall_mem_cons] at h
    obtain ⟨hid, hstatus, hname, hspec, -⟩ := h
    rw [Draft.met, written_congr hid, written_congr hstatus, written_congr hname,
      written_congr hspec, Draft.met]
  fields := rfl
  field hmem met hmet := by
    simp only [allMembers, List.mem_cons, List.not_mem_nil, or_false] at hmem
    rcases hmem with heq | heq | heq | heq <;> cases heq
    · exact ⟨_, rfl, Field.of_takes (takes_readText depth _) (written_eq_none hmet _)
        (by simp [Draft.met])⟩
    · exact ⟨_, rfl, Field.of_takes (takes_readText depth _) (written_eq_none hmet _)
        (by simp [Draft.met])⟩
    · exact ⟨_, rfl, Field.of_takes (d.takes_nameValue depth) (written_eq_none hmet _)
        (by simp [Draft.met])⟩
    · exact ⟨_, rfl, Field.of_takes h.takes (written_eq_none hmet _) (by simp [Draft.met])⟩

/-- What is left out of a deployment is what an absent field stands for. -/
private theorem ofDraft_members (d : Deployment) :
    ofDraft (Draft.met d (keysOf d.members).contains) = .ok d := by
  obtain ⟨id, status, _ | name, spec⟩ := d <;> cases spec <;> rfl

/-- A deployment that is spelled with the fields that are written is taken for itself. -/
theorem takes_members {depth : Nat} (h : d.spec.Readable depth) :
    Takes record.read (depth + 1) (.object d.members) d :=
  (collects h).takes (by simp [keysOf, allMembers]) d.carries_members (ofDraft_members d)

/-- **The text of a deployment is read as this deployment**, if its `spec` can be read at all within the
brackets of the deployment. -/
theorem parse_text (hread : d.spec.Readable 126) (hint : d.spec.Integral) :
    parse (Text.bytes d.text) = .ok d := by
  have hparse := parseAll_of_takes (takes_members hread) blanks_nil
    (integral_members hint).spells_compact blanks_nil
  rwa [List.nil_append, List.append_nil] at hparse

/-! ### What has been read -/

/-- The `spec` of a draft, if it has one, is as a value that has been read. -/
def Draft.IsReadable (depth : Nat) (draft : Draft) : Prop :=
  ∀ v, draft.spec = some v → v.Readable depth

private theorem keeps_isReadable (depth : Nat) :
    Keeps record.fields depth (Draft.IsReadable depth) := by
  intro f hf draft draft' s rest hdraft hread
  simp only [record, List.mem_cons, List.not_mem_nil, or_false] at hf
  rcases hf with rfl | rfl | rfl | rfl <;> obtain ⟨⟨v, r⟩, hv, heq⟩ := map_eq_ok.mp hread <;> cases heq
  · exact hdraft
  · exact hdraft
  · exact hdraft
  · intro w hw
    cases hw
    exact readable_of_read hv

/-- The `spec` of a deployment that was read has its members in order, and leaves room for the bracket of
the deployment. -/
theorem readable_of_parse {t : Bytes} (h : parse t = .ok d) : d.spec.Readable 126 := by
  obtain ⟨rest, hread⟩ := exists_read_of_parseAll h
  obtain ⟨draft, hdraft, hfinish⟩ := (keeps_isReadable 126).read (fun _ h => nomatch h) hread
  obtain ⟨id, status, name, spec⟩ := draft
  rcases id with _ | id
  · cases hfinish
  rcases status with _ | status
  · cases hfinish
  cases hfinish
  rcases spec with _ | spec
  · exact .null
  · exact hdraft spec rfl

/-- **The text of a deployment is canonical.** What is written of a deployment that was read, if the numbers
of its `spec` are integers, is read as the same deployment and written the same again. So two texts are
read as one deployment exactly if the same is written of what they are read as. -/
theorem text_canonical {t t' : Bytes} {d d' : Deployment} (h : parse t = .ok d) (h' : parse t' = .ok d')
    (hspec : d.spec.Integral) (hspec' : d'.spec.Integral) :
    parse (Text.bytes d.text) = .ok d ∧ (parse (Text.bytes d.text)).map text = .ok d.text ∧
      (d = d' ↔ d.text = d'.text) := by
  have hparse := parse_text (readable_of_parse h) hspec
  have hparse' := parse_text (readable_of_parse h') hspec'
  refine ⟨hparse, ?_, congrArg text, fun htext => ?_⟩
  · rw [hparse]
    rfl
  · rw [← htext, hparse] at hparse'
    cases hparse'
    rfl

/-- A text with its fields in another order, one that is not known, escapes, blanks and a repeated key, and
a positional one whose `spec` has the value that is written over in the first. -/
theorem text_canonical_respelled :
    let t := Text.bytes ("\x7b\"spec\": \x7b\"b\": 1, \"a\": [-2], \"b\": 18446744073709551615\x7d," ++
      "\n \"x\": 1e999, \"st\\u0061tus\": \"up\", \"id\": \"\\u000a7\"\x7d")
    let t' := Text.bytes "[\"\\n7\",\"up\",null,\x7b\"b\":1,\"a\":[-2]\x7d]"
    let spec (b : Int) : Value :=
      .object [("a", .array [.number (.int (-2))]), ("b", .number (.int b))]
    let d : Deployment := ⟨"\n7", "up", none, spec 0xFFFFFFFFFFFFFFFF⟩
    let d' : Deployment := ⟨"\n7", "up", none, spec 1⟩
    parse t = .ok d ∧ parse t' = .ok d' ∧ d.spec.Integral ∧ d'.spec.Integral ∧
      parse (Text.bytes d.text) = .ok d ∧ (parse (Text.bytes d.text)).map text = .ok d.text ∧
      (d = d' ↔ d.text = d'.text) := by
  intro t t' spec d d'
  have ht : parse t = .ok d := by
    subst t d spec
    cbv
  have ht' : parse t' = .ok d' := by
    subst t' d' spec
    cbv
  have hspec {b : Int} (hb : minInteger ≤ b ∧ b ≤ maxInteger) : (spec b).Integral := by
    refine .object (List.forall_mem_cons.mpr ⟨.array ?_, List.forall_mem_singleton.mpr (.int hb)⟩)
    exact List.forall_mem_singleton.mpr (.int (by decide))
  have hd : d.spec.Integral := hspec (by decide)
  have hd' : d'.spec.Integral := hspec (by decide)
  exact ⟨ht, ht', hd, hd', text_canonical ht ht' hd hd'⟩

end Deployment

end Deployer
