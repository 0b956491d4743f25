import Deployer.Json.Record

/-!
# Errors that the service reports

Only the message makes a payload a service error. Its code is read leniently: anything but an integer
from 0 to 65535 counts as absent, so a symbolic code or one out of range does not spoil the error.
-/

namespace Deployer

open Json

/-- An error reported by the service. -/
structure ServiceError where
  message : String
  code : Option UInt16
deriving DecidableEq

namespace ServiceError

/-- The error in words. -/
def text (e : ServiceError) : String :=
  match e.code with
  | some code => e.message ++ " (code " ++ Nat.repr code.toNat ++ ")"
  | none => e.message

/-- The code that a value stands for. -/
def codeOf (v : Value) : Option UInt16 :=
  match v.natural? with
  | some n => if n < 65536 then some n.toUInt16 else none
  | none => none

/-! ### Writing -/

/-- The members of an error's object, in the order in which they are written. -/
def members (e : ServiceError) : List (String × Value) :=
  ("message", .string e.message) ::
    match e.code with
    | some code => [("code", .number (.int code.toNat))]
    | none => []

/-- The JSON text of an error. -/
def json (e : ServiceError) : String := (Value.object e.members).compact

/-- The JSON value of an error. -/
def toValue (e : ServiceError) : Value :=
  .object (e.members.foldl (fun ms (k, v) => insertMember k v ms) [])

/-! ### Reading a text -/

/-- An error of which some fields have been read. -/
structure Draft where
  message : Option String
  code : Option (Option UInt16)

/-- The error that a draft amounts to, or the required field that it lacks. -/
def ofDraft (draft : Draft) : Except String ServiceError :=
  match draft.message with
  | none => .error "message"
  | some message => .ok ⟨message, draft.code.getD none⟩

/-- The fields of a service error. -/
def record : Record Draft ServiceError where
  name := "ErrorResponse"
  fields := [
    .of "message" Draft.message (fun d v => { d with message := some v }) readText,
    .of "code" Draft.code (fun d v => { d with code := some v }) (mapReader codeOf Value.read)]
  start := ⟨none, none⟩
  finish := ofDraft

/-- Reads a service error off a text. -/
def reader : TypedReader ServiceError := record.read

/-- The service error of a whole text. -/
def parse (text : Bytes) : Except String ServiceError := parseAll reader text

/-! ### Recognising a value -/

/-- The service error of a decoded value. An object may have other members; an array has the message
and then perhaps the code. -/
def ofValue? : Value → Option ServiceError
  | .object members => do
    let message ← (← members.lookup "message").string?
    return ⟨message, codeOf ((members.lookup "code").getD .null)⟩
  | .array [message] => do return ⟨← message.string?, none⟩
  | .array [message, code] => do return ⟨← message.string?, codeOf code⟩
  | _ => none

end ServiceError

end Deployer
