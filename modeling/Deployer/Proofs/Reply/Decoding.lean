import Deployer.Reply
import Deployer.Proofs.Json.Record
import Mathlib

/-!
# Two decoders for one shape

Deployments and service errors are read off texts and recognised in decoded values. A text is read in
the order of its keys, what is not a field is passed over unread, and a repeated field is refused; in
a decoded value the members are in order, each once, and everything in it has been read.

* `Deployment.assembles` and `ServiceError.assembles`: the drafts of both readers are determined by
  what can be looked up under the names of the fields.
* `Deployment.ofValue?_eq` and `ServiceError.ofValue?_eq`: both recognisers are the general one.
* `decoders_agree`: on a text that can be decoded at all and that repeats no field at its top level,
  the reader and the recogniser give the same deployment, or the same service error, or nothing.

A text that cannot be decoded may still be read off: a number out of range or a half of a surrogate
pair in a member that is not a field is passed over.
-/

namespace Deployer

open Json

variable {look look' : String → Option Value}

/-! ### Deployments -/

namespace Deployment

/-- A name is read as it is recognised. -/
private theorem agrees_name : Agrees (readOptional readText) nameOf? := by
  intro depth s v rest hv
  rw [agrees_readText.optional hv]
  cases v <;> rfl

/-- The draft of what can be looked up. -/
def Draft.ofLookup (look : String → Option Value) : Option Draft := do
  let id ← slot Value.string? (look "id")
  let status ← slot Value.string? (look "status")
  let name ← slot nameOf? (look "name")
  let spec ← slot some (look "spec")
  return ⟨id, status, name, spec⟩

theorem Draft.ofLookup_eq_some_iff {draft : Draft} : ofLookup look = some draft ↔
    slot Value.string? (look "id") = some draft.id ∧
      slot Value.string? (look "status") = some draft.status ∧
      slot nameOf? (look "name") = some draft.name ∧ slot some (look "spec") = some draft.spec := by
  obtain ⟨id, status, name, spec⟩ := draft
  simp only [ofLookup, Option.bind_eq_bind, Option.bind_eq_some_iff, Option.pure_def,
    Option.some.injEq, mk.injEq]
  constructor
  · rintro ⟨_, hid, _, hstatus, _, hname, _, hspec, rfl, rfl, rfl, rfl⟩
    exact ⟨hid, hstatus, hname, hspec⟩
  · rintro ⟨hid, hstatus, hname, hspec⟩
    exact ⟨_, hid, _, hstatus, _, hname, _, hspec, rfl, rfl, rfl, rfl⟩

/-- **The draft of a deployment** is assembled from what can be looked up. -/
theorem assembles : Assembles record Draft.ofLookup where
  start := rfl
  congr h := by
    simp only [record, Field.of, List.forall_mem_cons] at h
    simp [Draft.ofLookup, h]
  mono h hsome := by
    simp only [record, Field.of, List.forall_mem_cons] at h
    obtain ⟨hid, hstatus, hname, hspec, -⟩ := h
    obtain ⟨draft, hdraft⟩ := Option.isSome_iff_exists.mp hsome
    obtain ⟨hid', hstatus', hname', hspec'⟩ := Draft.ofLookup_eq_some_iff.mp hdraft
    obtain ⟨id, hid⟩ := slot_mono hid hid'
    obtain ⟨status, hstatus⟩ := slot_mono hstatus hstatus'
    obtain ⟨name, hname⟩ := slot_mono hname hname'
    obtain ⟨spec, hspec⟩ := slot_mono hspec hspec'
    exact Option.isSome_iff_exists.mpr
      ⟨⟨id, status, name, spec⟩, Draft.ofLookup_eq_some_iff.mpr ⟨hid, hstatus, hname, hspec⟩⟩
  field hf look draft hdraft hnone := by
    obtain ⟨hid, hstatus, hname, hspec⟩ := Draft.ofLookup_eq_some_iff.mp hdraft
    simp only [record, List.mem_cons, List.not_mem_nil, or_false] at hf
    rcases hf with rfl | rfl | rfl | rfl <;> simp only [Field.of] at hnone
    · refine Field.of_agrees agrees_readText hnone hid fun v => ?_
      cases hv : v.string? <;> simp [Draft.ofLookup, hv, hstatus, hname, hspec]
    · refine Field.of_agrees agrees_readText hnone hstatus fun v => ?_
      cases hv : v.string? <;> simp [Draft.ofLookup, hv, hid, hname, hspec]
    · refine Field.of_agrees agrees_name hnone hname fun v => ?_
      cases hv : nameOf? v <;> simp [Draft.ofLookup, hv, hid, hstatus, hspec]
    · refine Field.of_agrees agrees_read hnone hspec fun v => ?_
      simp [Draft.ofLookup, hid, hstatus, hname]

/-- The deployment of what can be looked up. -/
private theorem bind_ofDraft (look : String → Option Value) :
    ((Draft.ofLookup look).bind fun draft => (ofDraft draft).toOption) = (do
      let id ← (← look "id").string?
      let status ← (← look "status").string?
      let name ← nameOf? ((look "name").getD .null)
      return ⟨id, status, name, (look "spec").getD .null⟩) := by
  have hspec : slot some (look "spec") = some (look "spec") := by cases look "spec" <;> rfl
  simp only [Draft.ofLookup, hspec, Option.bind_eq_bind]
  generalize look "id" = id, look "status" = status, look "name" = name, look "spec" = spec
  -- a missing field is found at the end, after the names that follow it
  rcases id with _ | id
  · cases slot Value.string? status <;> cases slot nameOf? name <;> rfl
  rcases status with _ | status
  · simp only [slot_some, Option.bind_some]
    cases id.string? <;> cases slot nameOf? name <;> rfl
  simp only [slot_some, Option.bind_some]
  cases id.string? with
  | none => rfl
  | some id =>
    cases status.string? with
    | none => rfl
    | some status =>
      cases name with
      | none => rfl
      | some name =>
        simp only [slot_some, Option.getD_some]
        cases nameOf? name <;> rfl

/-- Deployments are recognised as records are. -/
theorem ofValue?_eq (v : Value) : ofValue? v = record.recognise Draft.ofLookup v := by
  match v with
  | .object members => exact (bind_ofDraft (List.lookup · members)).symm
  | .array [id] => cases id <;> rfl
  | .array [id, status] =>
    exact (bind_ofDraft (List.lookup · [("id", id), ("status", status)])).symm
  | .array [id, status, name] =>
    exact (bind_ofDraft (List.lookup · [("id", id), ("status", status), ("name", name)])).symm
  | .array [id, status, name, spec] =>
    exact (bind_ofDraft
      (List.lookup · [("id", id), ("status", status), ("name", name), ("spec", spec)])).symm
  | .array [] | .array (_ :: _ :: _ :: _ :: _ :: _) => rfl
  | .null | .bool _ | .number _ | .string _ => rfl

end Deployment

/-! ### Service errors -/

namespace ServiceError

/-- Every value is read as a code, if only as an absent one. -/
private theorem agrees_code : Agrees (mapReader codeOf Value.read) fun v => some (codeOf v) :=
  agrees_read.map codeOf

/-- The draft of what can be looked up. -/
def Draft.ofLookup (look : String → Option Value) : Option Draft := do
  let message ← slot Value.string? (look "message")
  let code ← slot (fun v => some (codeOf v)) (look "code")
  return ⟨message, code⟩

theorem Draft.ofLookup_eq_some_iff {draft : Draft} : ofLookup look = some draft ↔
    slot Value.string? (look "message") = some draft.message ∧
      slot (fun v => some (codeOf v)) (look "code") = some draft.code := by
  obtain ⟨message, code⟩ := draft
  simp only [ofLookup, Option.bind_eq_bind, Option.bind_eq_some_iff, Option.pure_def,
    Option.some.injEq, mk.injEq]
  constructor
  · rintro ⟨_, hmessage, _, hcode, rfl, rfl⟩
    exact ⟨hmessage, hcode⟩
  · rintro ⟨hmessage, hcode⟩
    exact ⟨_, hmessage, _, hcode, rfl, rfl⟩

/-- **The draft of a service error** is assembled from what can be looked up. -/
theorem assembles : Assembles record Draft.ofLookup where
  start := rfl
  congr h := by
    simp only [record, Field.of, List.forall_mem_cons] at h
    simp [Draft.ofLookup, h]
  mono h hsome := by
    simp only [record, Field.of, List.forall_mem_cons] at h
    obtain ⟨hmessage, hcode, -⟩ := h
    obtain ⟨draft, hdraft⟩ := Option.isSome_iff_exists.mp hsome
    obtain ⟨hmessage', hcode'⟩ := Draft.ofLookup_eq_some_iff.mp hdraft
    obtain ⟨message, hmessage⟩ := slot_mono hmessage hmessage'
    obtain ⟨code, hcode⟩ := slot_mono hcode hcode'
    exact Option.isSome_iff_exists.mpr
      ⟨⟨message, code⟩, Draft.ofLookup_eq_some_iff.mpr ⟨hmessage, hcode⟩⟩
  field hf look draft hdraft hnone := by
    obtain ⟨hmessage, hcode⟩ := Draft.ofLookup_eq_some_iff.mp hdraft
    simp only [record, List.mem_cons, List.not_mem_nil, or_false] at hf
    rcases hf with rfl | rfl <;> simp only [Field.of] at hnone
    · refine Field.of_agrees agrees_readText hnone hmessage fun v => ?_
      cases hv : v.string? <;> simp [Draft.ofLookup, hv, hcode]
    · refine Field.of_agrees agrees_code hnone hcode fun v => ?_
      simp [Draft.ofLookup, hmessage]

/-- The service error of what can be looked up. -/
private theorem bind_ofDraft (look : String → Option Value) :
    ((Draft.ofLookup look).bind fun draft => (ofDraft draft).toOption) = (do
      let message ← (← look "message").string?
      return ⟨message, codeOf ((look "code").getD .null)⟩) := by
  simp only [Draft.ofLookup, Option.bind_eq_bind]
  generalize look "message" = message, look "code" = code
  cases message with
  | none => cases code <;> rfl
  | some message =>
    simp only [slot_some, Option.bind_some]
    cases message.string? with
    | none => rfl
    | some message => cases code <;> rfl

/-- Service errors are recognised as records are. -/
theorem ofValue?_eq (v : Value) : ofValue? v = record.recognise Draft.ofLookup v := by
  match v with
  | .object members => exact (bind_ofDraft (List.lookup · members)).symm
  | .array [message] => exact (bind_ofDraft (List.lookup · [("message", message)])).symm
  | .array [message, code] =>
    exact (bind_ofDraft (List.lookup · [("message", message), ("code", code)])).symm
  | .array [] | .array (_ :: _ :: _ :: _) => rfl
  | .null | .bool _ | .number _ | .string _ => rfl

end ServiceError

/-! ### Whole texts -/

/-- The status does not decide whether a reply is a deployment. -/
theorem classify_eq_deployment_iff {reply : Reply} {d : Deployment} :
    classify reply = .deployment d ↔ Deployment.ofValue? reply.body = some d := by
  unfold classify
  cases Deployment.ofValue? reply.body with
  | some => simp
  | none => cases ServiceError.ofValue? reply.body <;> simp

/-- **Two decoders for one shape.** On every text that can be decoded, reading the text and recognising
the decoded value agree: if no field of a deployment is repeated at the top level, the reader gives a
deployment exactly if `classify` takes the value for that deployment, whatever the status; and if no
field of a service error is repeated there, the reader gives a service error exactly if that is
recognised in the value. Keys are compared with their escapes decoded. -/
theorem decoders_agree {text : Bytes} {v : Value} (hv : Value.ofBytes text = .ok v) :
    ((∀ key ∈ ["id", "status", "name", "spec"], (topKeys text).count key ≤ 1) →
      ∀ d status, Deployment.parse text = .ok d ↔ classify ⟨status, v⟩ = .deployment d) ∧
    ((∀ key ∈ ["message", "code"], (topKeys text).count key ≤ 1) →
      ∀ e, ServiceError.parse text = .ok e ↔ ServiceError.ofValue? v = some e) := by
  constructor
  · intro honce d status
    have hread : (Deployment.parse text).toOption = Deployment.ofValue? v := by
      rw [Deployment.ofValue?_eq]
      refine Deployment.assembles.parseAll_eq (by decide) hv fun f hf => honce f.name ?_
      exact List.mem_map_of_mem (f := Field.name) hf
    rw [← toOption_eq_some, hread, classify_eq_deployment_iff]
  · intro honce e
    have hread : (ServiceError.parse text).toOption = ServiceError.ofValue? v := by
      rw [ServiceError.ofValue?_eq]
      refine ServiceError.assembles.parseAll_eq (by decide) hv fun f hf => honce f.name ?_
      exact List.mem_map_of_mem (f := Field.name) hf
    rw [← toOption_eq_some, hread]

/-- A deployment behind a member that is not a field, with an escape in a key and with its fields out
of order. It is not a service error. -/
theorem decoders_agree_escaped :
    let text := Text.bytes "\x7b\"x\":[null],\"st\\u0061tus\":\"up\",\"id\":\"7\"\x7d"
    let v : Value :=
      .object [("id", .string "7"), ("status", .string "up"), ("x", .array [.null])]
    Value.ofBytes text = .ok v ∧ topKeys text = ["x", "status", "id"] ∧
      Deployment.parse text = .ok (.plain "7" "up") ∧ ∀ e, ServiceError.parse text ≠ .ok e := by
  intro text v
  have hv : Value.ofBytes text = .ok v := by
    subst text v
    cbv
  have hkeys : topKeys text = ["x", "status", "id"] := by
    subst text
    cbv
  obtain ⟨hd, he⟩ := decoders_agree hv
  rw [hkeys] at hd he
  have hclassify : classify ⟨200, v⟩ = .deployment (.plain "7" "up") := rfl
  have hnone : ServiceError.ofValue? v = none := rfl
  refine ⟨hv, hkeys, (hd (by decide) (.plain "7" "up") 200).mpr hclassify, fun e hparse => ?_⟩
  cases hnone.symm.trans ((he (by decide) e).mp hparse)

end Deployer
