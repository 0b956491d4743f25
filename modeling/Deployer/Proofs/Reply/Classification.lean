import Deployer.Reply

/-!
# What a reply is taken for

A body is a deployment, or a service error, or neither, by its shape alone. Both shapes come in two
forms: an object with members of certain names, among others that are ignored, and an array with the
same values in their order, of which the later ones may be left out.

* `Deployment.Shape` and `ServiceError.Shape` describe the shapes and what is read off them. Neither
  says how a value is searched.
* `Deployment.ofValue?_eq_some_iff` and `ServiceError.ofValue?_eq_some_iff`: the two recognisers
  accept exactly their shapes.
* `classify_eq_iff`: what a reply means, for every status and body. The status never decides between
  the three outcomes; it only stands in for a code that a service error does not have.

A member is looked up by its key, so nothing is asked of the order of the members.
-/

namespace Deployer

open Json

/-- A string value gives its text, and no other value gives one. -/
theorem Json.Value.string?_eq_some_iff {v : Value} {s : String} :
    v.string? = some s ↔ v = .string s := by
  cases v <;> simp [Value.string?]

/-! ### Deployments -/

namespace Deployment

/-- What stands in the place of a name, and the name that it gives: nothing and `null` give none. -/
inductive Named : Option Value → Option String → Prop
  | absent : Named none none
  | null : Named (some .null) none
  | string (name : String) : Named (some (.string name)) (some name)

/-- **The shape of a deployment**, with the deployment that it gives. In an array the name and the
`spec` are the elements after the first two. -/
inductive Shape : Value → Deployment → Prop
  | object {members : List (String × Value)} {id status : String} {name : Option String}
    (hid : members.lookup "id" = some (.string id))
    (hstatus : members.lookup "status" = some (.string status))
    (hname : Named (members.lookup "name") name) :
    Shape (.object members) ⟨id, status, name, (members.lookup "spec").getD .null⟩
  | array {id status : String} {more : List Value} {name : Option String}
    (hlength : more.length ≤ 2) (hname : Named more[0]? name) :
    Shape (.array (.string id :: .string status :: more)) ⟨id, status, name, more[1]?.getD .null⟩

/-- An absent name is read as `null` is. -/
theorem nameOf?_getD_eq_some_iff {v : Option Value} {name : Option String} :
    nameOf? (v.getD .null) = some name ↔ Named v name := by
  constructor
  · intro h
    match v with
    | none =>
      obtain rfl : none = name := Option.some.inj h
      exact .absent
    | some .null =>
      obtain rfl : none = name := Option.some.inj h
      exact .null
    | some (.string text) =>
      obtain rfl : some text = name := Option.some.inj h
      exact .string text
    | some (.bool _) | some (.number _) | some (.array _) | some (.object _) => cases h
  · rintro (_ | _ | _) <;> rfl

/-- The first two elements of an array are the id and the status; what follows them is at most a name
and a `spec`. -/
private theorem ofValue?_array (id status : Value) (more : List Value) :
    ofValue? (.array (id :: status :: more)) =
      if more.length ≤ 2 then do
        let id ← id.string?
        let status ← status.string?
        let name ← nameOf? (more[0]?.getD .null)
        return ⟨id, status, name, more[1]?.getD .null⟩
      else none := by
  match more with
  | [] => rfl
  | [_] => rfl
  | [_, _] => rfl
  | _ :: _ :: _ :: _ => simp [ofValue?]

/-- A deployment is recognised by its shape. -/
theorem ofValue?_eq_some_iff {v : Value} {d : Deployment} : ofValue? v = some d ↔ Shape v d := by
  constructor
  · intro h
    match v with
    | .object members =>
      simp only [ofValue?, Option.bind_eq_bind, Option.bind_eq_some_iff, Option.pure_def,
        Option.some.injEq, Value.string?_eq_some_iff, nameOf?_getD_eq_some_iff] at h
      obtain ⟨_, hid, id, rfl, _, hstatus, status, rfl, name, hname, rfl⟩ := h
      exact .object hid hstatus hname
    | .array (id :: status :: more) =>
      rw [ofValue?_array, Option.ite_none_right_eq_some] at h
      simp only [Option.bind_eq_bind, Option.bind_eq_some_iff, Option.pure_def,
        Option.some.injEq, Value.string?_eq_some_iff, nameOf?_getD_eq_some_iff] at h
      obtain ⟨hlength, id, rfl, status, rfl, name, hname, rfl⟩ := h
      exact .array hlength hname
    | .array [] | .array [_] | .null | .bool _ | .number _ | .string _ => cases h
  · rintro (⟨hid, hstatus, hname⟩ | ⟨hlength, hname⟩)
    · simp [ofValue?, hid, hstatus, nameOf?_getD_eq_some_iff.mpr hname, Value.string?]
    · simp [ofValue?_array, hlength, nameOf?_getD_eq_some_iff.mpr hname, Value.string?]

end Deployment

/-! ### Service errors -/

namespace ServiceError

/-- What stands in the place of a code, and the code that it gives: an integer of 16 bits gives
itself, and everything else gives none. -/
inductive Coded : Option Value → Option UInt16 → Prop
  | given (code : UInt16) : Coded (some (.number (.int code.toNat))) (some code)
  | absent {v : Option Value} (hv : ∀ code : UInt16, v ≠ some (.number (.int code.toNat))) :
    Coded v none

/-- **The shape of a service error**, with the error that it gives. In an array the code is the
element after the message. -/
inductive Shape : Value → ServiceError → Prop
  | object {members : List (String × Value)} {message : String} {code : Option UInt16}
    (hmessage : members.lookup "message" = some (.string message))
    (hcode : Coded (members.lookup "code") code) : Shape (.object members) ⟨message, code⟩
  | array {message : String} {more : List Value} {code : Option UInt16}
    (hlength : more.length ≤ 1) (hcode : Coded more[0]? code) :
    Shape (.array (.string message :: more)) ⟨message, code⟩

/-- A value gives a code exactly if it is that integer. -/
theorem codeOf_eq_some_iff {v : Value} {code : UInt16} :
    codeOf v = some code ↔ v = .number (.int code.toNat) := by
  constructor
  · intro h
    rw [codeOf] at h
    split at h
    next n hn =>
      obtain ⟨hlt, hcode⟩ := Option.ite_none_right_eq_some.mp h
      obtain rfl := Option.some.inj hcode
      match v with
      | .number (.int z) =>
        obtain ⟨hz, hnat⟩ := Option.ite_none_right_eq_some.mp hn
        obtain rfl := Option.some.inj hnat
        have hsize : z.toNat.toUInt16.toNat = z.toNat := UInt16.toNat_ofNat_of_lt' hlt
        rw [hsize, Int.toNat_of_nonneg hz]
      | .number (.float _) | .null | .bool _ | .string _ | .array _ | .object _ => cases hn
    next => cases h
  · rintro rfl
    have hlt : code.toNat < 65536 := code.toNat_lt
    simp [codeOf, Value.natural?, hlt]

/-- What stands in the place of a code is read as the code that it gives; an absent one is read as
`null` is. -/
theorem codeOf_getD_eq_iff {v : Option Value} {code : Option UInt16} :
    codeOf (v.getD .null) = code ↔ Coded v code := by
  constructor
  · rintro rfl
    cases hcode : codeOf (v.getD .null) with
    | none =>
      refine .absent fun code hv => ?_
      rw [hv, Option.getD_some, codeOf_eq_some_iff.mpr rfl] at hcode
      cases hcode
    | some code =>
      match v with
      | none => cases hcode
      | some v =>
        obtain rfl : v = _ := codeOf_eq_some_iff.mp hcode
        exact .given code
  · rintro (code | hv)
    · exact codeOf_eq_some_iff.mpr rfl
    · refine Option.eq_none_iff_forall_ne_some.mpr fun code hcode => ?_
      match v with
      | none => cases hcode
      | some v => exact hv code (congrArg some (codeOf_eq_some_iff.mp hcode))

/-- The first element of an array is the message; what follows it is at most a code. -/
private theorem ofValue?_array (message : Value) (more : List Value) :
    ofValue? (.array (message :: more)) =
      if more.length ≤ 1 then do return ⟨← message.string?, codeOf (more[0]?.getD .null)⟩
      else none := by
  match more with
  | [] => rfl
  | [_] => rfl
  | _ :: _ :: _ => simp [ofValue?]

/-- A service error is recognised by its shape. -/
theorem ofValue?_eq_some_iff {v : Value} {e : ServiceError} : ofValue? v = some e ↔ Shape v e := by
  constructor
  · intro h
    match v with
    | .object members =>
      simp only [ofValue?, Option.bind_eq_bind, Option.bind_eq_some_iff, Option.pure_def,
        Option.some.injEq, Value.string?_eq_some_iff] at h
      obtain ⟨_, hmessage, message, rfl, rfl⟩ := h
      exact .object hmessage (codeOf_getD_eq_iff.mp rfl)
    | .array (message :: more) =>
      rw [ofValue?_array, Option.ite_none_right_eq_some] at h
      simp only [Option.bind_eq_bind, Option.bind_eq_some_iff, Option.pure_def,
        Option.some.injEq, Value.string?_eq_some_iff] at h
      obtain ⟨hlength, message, rfl, rfl⟩ := h
      exact .array hlength (codeOf_getD_eq_iff.mp rfl)
    | .array [] | .null | .bool _ | .number _ | .string _ => cases h
  · rintro (⟨hmessage, hcode⟩ | ⟨hlength, hcode⟩)
    · simp [ofValue?, hmessage, codeOf_getD_eq_iff.mpr hcode, Value.string?]
    · simp [ofValue?_array, hlength, codeOf_getD_eq_iff.mpr hcode, Value.string?]

/-- The code that a status stands in for: its own, unless it reports a success. -/
theorem underStatus_eq (e : ServiceError) (status : UInt16) :
    e.underStatus status =
      ⟨e.message, e.code.or (if status < 200 ∨ 299 < status then some status else none)⟩ := by
  have hsuccess : isSuccess status = true ↔ ¬ (status < 200 ∨ 299 < status) := by
    simp only [isSuccess, Bool.and_eq_true, decide_eq_true_eq, UInt16.le_iff_toNat_le,
      UInt16.lt_iff_toNat_lt]
    change 200 ≤ status.toNat ∧ status.toNat < 300 ↔ ¬ (status.toNat < 200 ∨ 299 < status.toNat)
    omega
  obtain ⟨message, _ | code⟩ := e
  · by_cases h : status < 200 ∨ 299 < status
    · have hfailed : isSuccess status = false := by simpa [h] using hsuccess
      simp [underStatus, hfailed, h]
    · simp [underStatus, hsuccess.mpr h, h]
  · rfl

end ServiceError

/-! ### The three outcomes -/

/-- **What a reply is taken for.** It is a deployment exactly if its body has that shape, with what
the shape gives. Otherwise it is a service error exactly if its body has the shape of one, with the
message and the code that the shape gives; if it gives no code, the status is the code, unless that
is from 200 to 299. In every other case it is a diagnostic of the body. -/
theorem classify_eq_iff (status : UInt16) (body : Value) :
    (∀ d, classify ⟨status, body⟩ = .deployment d ↔ Deployment.Shape body d) ∧
    (∀ e, classify ⟨status, body⟩ = .refused e ↔ (∀ d, ¬ Deployment.Shape body d) ∧
      ∃ own, ServiceError.Shape body ⟨e.message, own⟩ ∧
        e.code = own.or (if status < 200 ∨ 299 < status then some status else none)) ∧
    (∀ x, classify ⟨status, body⟩ = .unclassified x ↔ (∀ d, ¬ Deployment.Shape body d) ∧
      (∀ e, ¬ ServiceError.Shape body e) ∧ x = Diagnostic.of body) := by
  simp only [← Deployment.ofValue?_eq_some_iff, ← ServiceError.ofValue?_eq_some_iff]
  cases hd : Deployment.ofValue? body with
  | some d => simp [classify, hd]
  | none =>
    cases he : ServiceError.ofValue? body with
    | some e =>
      have hclassify : classify ⟨status, body⟩ = .refused (e.underStatus status) := by
        simp [classify, hd, he]
      refine ⟨by simp [hclassify], fun refused => ?_, by simp [hclassify]⟩
      rw [hclassify, ServiceError.underStatus_eq]
      constructor
      · rintro ⟨⟩
        exact ⟨by simp, e.code, rfl, rfl⟩
      · rintro ⟨-, own, he, hcode⟩
        obtain rfl := Option.some.inj he
        rw [← hcode]
    | none => simp [classify, hd, he, eq_comm]

end Deployer
