import Deployer.Address
import Deployer.Limiter
import Deployer.Retry

/-!
# Options of a client

`Options` is what a client is made from, `Blueprint` what it amounts to once everything in it has been
found acceptable. Faults are looked for in a fixed order: the policy, the timeout, the operation paths,
the address, the burst, the refill interval.
-/

namespace Deployer

/-- Everything that a client is made from. -/
structure Options where
  address : String
  refill : Duration
  burst : Nat
  policy : Policy
  requestTimeout : Duration
  createPath : String
  getPath : String
deriving DecidableEq, Repr

/-- The options of a client that were found acceptable, with the URLs of its operations. -/
structure Blueprint where
  base : Url
  quota : Quota
  policy : Policy
  requestTimeout : Duration
  create : Url
  get : Url

namespace Options

/-- The options when nothing is chosen. -/
def default : Options where
  address := "localhost:8080"
  refill := Duration.ofSecs 1
  burst := 100
  policy := ⟨Duration.ofSecs 2, 31⟩
  requestTimeout := Duration.ofSecs 30
  createPath := "/kfctl/apps/v1alpha1/create"
  getPath := "/kfctl/apps/v1alpha1/get"

/-- Options must allow an attempt and give it time, and no operation may lack a path. -/
def validate (o : Options) : Except ConfigFault Unit := do
  o.policy.validate
  if o.requestTimeout = 0 then throw .noTimeout
  if o.createPath.isEmpty || o.getPath.isEmpty then throw .emptyPath

/-- What the options amount to, or the first fault in them. -/
def blueprint (o : Options) : Except Error Blueprint := do
  o.validate.mapError Error.config
  let base ← (Address.normalize o.address).mapError Error.address
  let quota ← (Quota.ofOptions o.refill o.burst).mapError Error.config
  return {
    base, quota
    policy := o.policy
    requestTimeout := o.requestTimeout
    create := Address.operationUrl base o.createPath
    get := Address.operationUrl base o.getPath }

open Activity

/-- Settles on a blueprint, and logs the base URL if there is one. -/
def construct {κ σ : Type} (o : Options) : Activity κ σ (Except Error Blueprint) := do
  match o.blueprint with
  | .error e => return .error e
  | .ok blueprint =>
    log (.targeting blueprint.base.text)
    return .ok blueprint

/-! ### What acceptable options amount to -/

section

variable {o : Options} {b : Blueprint}

/-- Acceptable options allow an attempt. -/
theorem maxAttempts_pos_of_validate_eq_ok (h : o.validate = .ok ()) : 0 < o.policy.maxAttempts := by
  refine Nat.pos_of_ne_zero fun hzero => ?_
  rw [validate, Policy.validate, if_pos hzero] at h
  cases h

/-- Options that were found acceptable say what their blueprint does. -/
theorem eq_of_blueprint_eq_ok (h : o.blueprint = .ok b) :
    0 < o.policy.maxAttempts ∧ b.policy = o.policy ∧ b.quota.refill = o.refill ∧
      b.quota.burst = o.burst ∧ b.create = Address.operationUrl b.base o.createPath ∧
      b.get = Address.operationUrl b.base o.getPath := by
  rw [blueprint] at h
  cases hvalidate : o.validate with
  | error fault =>
    rw [hvalidate] at h
    cases h
  | ok =>
    cases hbase : Address.normalize o.address with
    | error fault =>
      rw [hvalidate, hbase] at h
      cases h
    | ok base =>
      cases hquota : Quota.ofOptions o.refill o.burst with
      | error fault =>
        rw [hvalidate, hbase, hquota] at h
        cases h
      | ok quota =>
        rw [hvalidate, hbase, hquota] at h
        cases h
        obtain ⟨hrefill, hburst⟩ := Quota.eq_of_ofOptions_eq_ok hquota
        exact ⟨maxAttempts_pos_of_validate_eq_ok hvalidate, rfl, hrefill, hburst, rfl, rfl⟩

end

end Options

end Deployer
