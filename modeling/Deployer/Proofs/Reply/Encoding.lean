import Deployer.Proofs.Json.Record
import Deployer.Proofs.Reply.Classification
import Mathlib.Data.List.Nodup

/-!
# What is written is recognised

Deployments and service errors are written as objects whose absent fields are left out. Such an object
is taken for what was written, whatever the status of the reply that brings it (`classify_toValue`):
a deployment comes back as it was, also without a name or a `spec`, and a service error comes back with
the code that the status gives to one without a code. No service error is written as what could be
taken for a deployment.
-/

namespace Deployer

open Json

/-- Of members that are put in their places one by one, each can be looked up, if no key is repeated. -/
theorem Json.lookup_collapsed_of_nodup {es : List (String × Value)} (h : (es.map (·.1)).Nodup)
    (key : String) : (collapsed es []).lookup key = es.lookup key := by
  rw [lookup_collapsed (List.nodup_iff_count_le_one.mp h key)]
  exact congrFun (overlay_none es) key

/-! ### Deployments -/

namespace Deployment

/-- The members of a deployment have some of four keys, in this order. -/
private theorem keys_members_sublist (d : Deployment) :
    (d.members.map (·.1)).Sublist ["id", "status", "name", "spec"] := by
  obtain ⟨id, status, _ | name, spec⟩ := d <;> cases hnull : spec.isNull <;>
    simp [members, hnull]

private theorem lookup_members_name (d : Deployment) :
    d.members.lookup "name" = d.name.map Value.string := by
  obtain ⟨id, status, _ | name, spec⟩ := d <;> cases hnull : spec.isNull <;>
    simp [members, hnull, List.lookup_cons]

private theorem lookup_members_spec (d : Deployment) :
    d.members.lookup "spec" = if d.spec.isNull then none else some d.spec := by
  obtain ⟨id, status, _ | name, spec⟩ := d <;> cases hnull : spec.isNull <;>
    simp [members, hnull, List.lookup_cons]

/-- **A written deployment has the shape of one**, and is the one that was written. -/
theorem shape_toValue (d : Deployment) : Shape d.toValue d := by
  have hlookup (key : String) : (collapsed d.members []).lookup key = d.members.lookup key :=
    lookup_collapsed_of_nodup (d.keys_members_sublist.nodup (by decide)) key
  have hname : Named (d.members.lookup "name") d.name := by
    rw [lookup_members_name]
    cases d.name with
    | none => exact .absent
    | some name => exact .string name
  have hspec : (d.members.lookup "spec").getD .null = d.spec := by
    rw [lookup_members_spec]
    cases d.spec <;> rfl
  -- the shape is that of the members which are looked up, and those are the ones of the deployment
  rw [← hlookup] at hname hspec
  have hshape : Shape (.object (collapsed d.members [])) ⟨d.id, d.status, d.name, _⟩ :=
    .object (hlookup "id") (hlookup "status") hname
  rwa [hspec] at hshape

end Deployment

/-! ### Service errors -/

namespace ServiceError

/-- The members of a service error have one or both of two keys. -/
private theorem keys_members_sublist (e : ServiceError) :
    (e.members.map (·.1)).Sublist ["message", "code"] := by
  obtain ⟨message, _ | code⟩ := e <;> simp [members]

private theorem lookup_toValue (e : ServiceError) (key : String) :
    (collapsed e.members []).lookup key = e.members.lookup key :=
  lookup_collapsed_of_nodup (e.keys_members_sublist.nodup (by decide)) key

/-- **A written service error has the shape of one**, and is the one that was written. -/
theorem shape_toValue (e : ServiceError) : Shape e.toValue e := by
  have hcode : Coded (e.members.lookup "code") e.code := by
    obtain ⟨message, _ | code⟩ := e
    · exact .absent fun code hcode => by cases hcode
    · exact .given code
  rw [← lookup_toValue] at hcode
  exact .object (e.lookup_toValue "message") hcode

/-- A service error is not written as a deployment: it has no id. -/
private theorem not_shape_toValue (e : ServiceError) (d : Deployment) :
    ¬ Deployment.Shape e.toValue d := by
  intro h
  cases h with
  | object hid _ _ =>
    have hnone : e.members.lookup "id" = none := by
      obtain ⟨message, _ | code⟩ := e <;> rfl
    rw [← lookup_toValue] at hnone
    exact Option.some_ne_none _ (hid.symm.trans hnone)

end ServiceError

/-! ### Replies -/

/-- **What is written is recognised**, under every status: a deployment is taken for itself, and a
service error for itself with the code that the status gives to one without a code, unless the status
is from 200 to 299. -/
theorem classify_toValue (status : UInt16) :
    (∀ d : Deployment, classify ⟨status, d.toValue⟩ = .deployment d) ∧
    ∀ e : ServiceError, classify ⟨status, e.toValue⟩ =
      .refused ⟨e.message, e.code.or (if status < 200 ∨ 299 < status then some status else none)⟩ := by
  constructor
  · intro d
    rw [classify, Deployment.ofValue?_eq_some_iff.mpr d.shape_toValue]
  · intro e
    have hdeployment : Deployment.ofValue? e.toValue = none :=
      Option.eq_none_iff_forall_ne_some.mpr fun d hd =>
        e.not_shape_toValue d (Deployment.ofValue?_eq_some_iff.mp hd)
    simp only [classify, hdeployment, ServiceError.ofValue?_eq_some_iff.mpr e.shape_toValue,
      ServiceError.underStatus_eq]

end Deployer
