import Deployer.Error

/-!
# Replies and what they mean

A reply is matched against the deployment shape first and the service-error shape second, so a body
that has both is a deployment. A service error without a code of its own takes the transport's status,
unless that is a success. What has neither shape is kept as a diagnostic.
-/

namespace Deployer

open Json

/-- A decoded reply: the transport's status and the body. -/
structure Reply where
  status : UInt16
  body : Value

/-- What a reply turned out to be. -/
inductive Outcome where
  | deployment (d : Deployment)
  | refused (e : ServiceError)
  | unclassified (d : Diagnostic)

/-- Whether a status reports a success. -/
def isSuccess (status : UInt16) : Bool := 200 ≤ status && status < 300

/-- A service error with the code that the transport gives it, if it has none and did not succeed. -/
def ServiceError.underStatus (e : ServiceError) (status : UInt16) : ServiceError :=
  if e.code.isNone && !isSuccess status then { e with code := some status } else e

/-- What a reply means. -/
def classify (reply : Reply) : Outcome :=
  match Deployment.ofValue? reply.body with
  | some d => .deployment d
  | none =>
    match ServiceError.ofValue? reply.body with
    | some e => .refused (e.underStatus reply.status)
    | none => .unclassified (Diagnostic.of reply.body)

/-- The result that an outcome gives the caller. -/
def Outcome.toResult : Outcome → Except Error Deployment
  | deployment d => .ok d
  | refused e => .error (.service e)
  | unclassified d => .error (.unexpected d)

end Deployer
