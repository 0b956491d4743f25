import Deployer.Number.Shortest

/-!
# JSON values

An object keeps its members in increasing order of their keys (by code points, which is also the
order of their UTF-8 bytes), each key once; `insertMember` puts a member in its place and replaces
an earlier one with the same key. A number is an integer or a finite binary64 number, and the two are
never equal: `1` and `1.0` are different values.
-/

namespace Deployer.Json

/-- A number: an integer of at most 64 bits, or a finite binary64 number. -/
inductive Number where
  | int (value : Int)
  | float (value : Binary64)
deriving DecidableEq, Repr

/-- The largest integer that a number holds as an integer. -/
def maxInteger : Int := 0xFFFFFFFFFFFFFFFF

/-- The least integer that a number holds as an integer. -/
def minInteger : Int := -0x8000000000000000

inductive Value where
  | null
  | bool (value : Bool)
  | number (value : Number)
  | string (value : String)
  | array (items : List Value)
  | object (members : List (String × Value))
deriving Repr, Inhabited

/-- Puts a member in its place, in place of an earlier member with the same key. -/
def insertMember (key : String) (value : Value) : List (String × Value) → List (String × Value)
  | [] => [(key, value)]
  | (k, v) :: rest =>
    if key < k then (key, value) :: (k, v) :: rest
    else if key = k then (key, value) :: rest
    else (k, v) :: insertMember key value rest

namespace Value

/-- The kind of a value, as diagnostics name it. -/
def kind : Value → String
  | null => "null"
  | bool _ => "bool"
  | number _ => "number"
  | string _ => "string"
  | array _ => "array"
  | object _ => "object"

/-- The text of a string value. -/
def string? : Value → Option String
  | string s => some s
  | _ => none

/-- Whether a value is `null`. -/
def isNull : Value → Bool
  | null => true
  | _ => false

/-- A nonnegative integer value. -/
def natural? : Value → Option Nat
  | number (.int n) => if 0 ≤ n then some n.toNat else none
  | _ => none

end Value

end Deployer.Json
