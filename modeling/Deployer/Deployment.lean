import Deployer.Json.Record

/-!
# Deployments

A deployment is what a caller asks for and what the service reports. Its `id` and `status` make a
payload a deployment; the name and the `spec`, which belongs to the caller's domain, may be absent.

Deployments are read in two ways. `Deployment.reader` takes one straight off a text and refuses a
repeated field; `Deployment.ofValue?` recognises one in a value that has been decoded already. They
are written with their fields in declared order, absent ones left out.
-/

namespace Deployer

open Json

/-- A deployment, requested or reported. -/
structure Deployment where
  id : String
  status : String
  name : Option String
  spec : Value

namespace Deployment

/-- A deployment with neither name nor spec. -/
def plain (id status : String) : Deployment := ⟨id, status, none, .null⟩

/-- Whether a deployment has neither name nor spec. -/
def isPlain (d : Deployment) : Bool := d.name.isNone && d.spec.isNull

/-! ### Writing -/

/-- The members of a deployment's object, in the order in which they are written. -/
def members (d : Deployment) : List (String × Value) :=
  [("id", .string d.id), ("status", .string d.status)] ++
    (match d.name with
      | some name => [("name", .string name)]
      | none => []) ++
    (if d.spec.isNull then [] else [("spec", d.spec)])

/-- The JSON text of a deployment. -/
def text (d : Deployment) : String := (Value.object d.members).compact

/-- The JSON value of a deployment. -/
def toValue (d : Deployment) : Value :=
  .object (d.members.foldl (fun ms (k, v) => insertMember k v ms) [])

/-! ### Reading a text -/

/-- A deployment of which some fields have been read. -/
structure Draft where
  id : Option String
  status : Option String
  name : Option (Option String)
  spec : Option Value

/-- The deployment that a draft amounts to, or the first required field that it lacks. -/
def ofDraft (draft : Draft) : Except String Deployment :=
  match draft.id, draft.status with
  | none, _ => .error "id"
  | some _, none => .error "status"
  | some id, some status =>
    .ok ⟨id, status, draft.name.getD none, draft.spec.getD .null⟩

/-- The fields of a deployment. -/
def record : Record Draft Deployment where
  name := "DeploymentDefinition"
  fields := [
    .of "id" Draft.id (fun d v => { d with id := some v }) readText,
    .of "status" Draft.status (fun d v => { d with status := some v }) readText,
    .of "name" Draft.name (fun d v => { d with name := some v }) (readOptional readText),
    .of "spec" Draft.spec (fun d v => { d with spec := some v }) Value.read]
  start := ⟨none, none, none, none⟩
  finish := ofDraft

/-- Reads a deployment off a text. -/
def reader : TypedReader Deployment := record.read

/-- The deployment of a whole text. -/
def parse (text : Bytes) : Except String Deployment := parseAll reader text

/-! ### Recognising a value -/

/-- The name that a value stands for: a string, or `null` for none. -/
def nameOf? : Value → Option (Option String)
  | .null => some none
  | .string s => some (some s)
  | _ => none

/-- The deployment of a decoded value. An object may have other members; an array has the fields in
their order, the last two of which may be left out. -/
def ofValue? : Value → Option Deployment
  | .object members => do
    let id ← (← members.lookup "id").string?
    let status ← (← members.lookup "status").string?
    let name ← nameOf? ((members.lookup "name").getD .null)
    return ⟨id, status, name, (members.lookup "spec").getD .null⟩
  | .array [id, status] => do return ⟨← id.string?, ← status.string?, none, .null⟩
  | .array [id, status, name] => do
    return ⟨← id.string?, ← status.string?, ← nameOf? name, .null⟩
  | .array [id, status, name, spec] => do
    return ⟨← id.string?, ← status.string?, ← nameOf? name, spec⟩
  | _ => none

end Deployment

end Deployer
