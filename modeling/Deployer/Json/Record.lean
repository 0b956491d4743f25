import Deployer.Json.Skip

/-!
# Reading typed values

A typed reader takes a value of a known type straight off the text, without building a `Value` first,
so that a fault can name the place and the type that was expected.

A `Record` describes a structure with named fields. Its text is an object whose keys are field names,
in any order, each at most once, other keys being skipped; or an array with the fields in their
declared order, of which trailing ones may be left out. What is collected along the way is a draft;
`Record.finish` turns the draft into the result or names a field that was required and is missing.
-/

namespace Deployer.Json

/-- A reader that is told how many brackets may still be opened. -/
abbrev TypedReader (α : Type) := (depth : Nat) → Reader α

/-- The refusal of the value in front, whose first byte is not that of an expected value. Scalars are
read through, brackets are not entered. -/
def mismatch (expected : Expected) (s : Bytes) : Refusal :=
  let found {α : Type} (of : α → Found) : Except Refusal (α × Bytes) → Refusal
    | .ok (a, rest) => ⟨.wrongType (of a) expected, rest⟩
    | .error e => e
  match s with
  | [] => ⟨.noValue, []⟩
  | b :: r =>
    match Start.of b with
    | .null => found (fun _ => .null) ((readWord ['u', 'l', 'l'] r).map ((), ·))
    | .true => found .bool ((readWord ['r', 'u', 'e'] r).map (Bool.true, ·))
    | .false => found .bool ((readWord ['a', 'l', 's', 'e'] r).map (Bool.false, ·))
    | .number =>
      found (fun | .int n => .integer n | .float x => .float x) (readNumber (b :: r))
    | .string => found .string (readString r)
    | .array => ⟨.wrongType .sequence expected, b :: r⟩
    | .object => ⟨.wrongType .map expected, b :: r⟩
    | .other => ⟨.noValue, r⟩

/-! ### Scalars -/

/-- A string. -/
def readText : TypedReader String := fun _ s =>
  match skipBlanks s with
  | [] => .error ⟨.endInValue, []⟩
  | b :: r => if Start.of b = .string then readString r else .error (mismatch .string (b :: r))

/-- A boolean. -/
def readBool : TypedReader Bool := fun _ s =>
  match skipBlanks s with
  | [] => .error ⟨.endInValue, []⟩
  | b :: r =>
    match Start.of b with
    | .true => (readWord ['r', 'u', 'e'] r).map (Bool.true, ·)
    | .false => (readWord ['a', 'l', 's', 'e'] r).map (Bool.false, ·)
    | _ => .error (mismatch .boolean (b :: r))

/-- An integer of so many bits without a sign. -/
def readUnsigned (bits : Nat) : TypedReader Nat := fun _ s =>
  match skipBlanks s with
  | [] => .error ⟨.endInValue, []⟩
  | b :: r =>
    if Start.of b = .number then
      match readNumber (b :: r) with
      | .error e => .error e
      | .ok (.int n, rest) =>
        if 0 ≤ n ∧ n.toNat < Nat.pow 2 bits then .ok (n.toNat, rest)
        else .error ⟨.wrongValue (.integer n) (.unsigned bits), rest⟩
      | .ok (.float x, rest) => .error ⟨.wrongType (.float x) (.unsigned bits), rest⟩
    else .error (mismatch (.unsigned bits) (b :: r))

/-- The word `null` and nothing else. -/
def readUnit : TypedReader Unit := fun _ s =>
  match skipBlanks s with
  | [] => .error ⟨.endInValue, []⟩
  | b :: r =>
    if Start.of b = .null then (readWord ['u', 'l', 'l'] r).map ((), ·)
    else .error (mismatch .unit (b :: r))

/-- A value, or `null` for none. -/
def readOptional {α : Type} (read : TypedReader α) : TypedReader (Option α) := fun depth s =>
  match skipBlanks s with
  | [] => (read depth []).map fun (a, rest) => (some a, rest)
  | b :: r =>
    if Start.of b = .null then (readWord ['u', 'l', 'l'] r).map (Option.none, ·)
    else (read depth (b :: r)).map fun (a, rest) => (some a, rest)

/-- A reader that ends in a function. -/
def mapReader {α β : Type} (f : α → β) (read : TypedReader α) : TypedReader β := fun depth s =>
  (read depth s).map fun (a, rest) => (f a, rest)

/-- One of a list of names, in quotes. -/
def readName {α : Type} (known : List (String × α)) : Reader α := fun s => do
  let (name, rest) ← readString s
  match known.lookup name with
  | some a => .ok (a, rest)
  | none => .error ⟨.unknownVariant name (known.map (·.1)), rest⟩

/-- One of a list of names, in quotes or as the one key of an object whose value is `null`. -/
def readVariant {α : Type} (known : List (String × α)) : TypedReader α := fun depth s =>
  match skipBlanks s with
  | [] => .error ⟨.endInValue, []⟩
  | b :: r =>
    match Start.of b, depth with
    | .string, _ => readName known r
    | .object, 0 => refuseAt .tooDeep (b :: r)
    | .object, depth + 1 =>
      match skipBlanks r with
      | [] => .error ⟨.endInObject, []⟩
      | c :: t =>
        if c = byte '"' then do
          let (a, t) ← readName known t
          let t ← readColon t
          let (_, t) ← readUnit depth t
          match skipBlanks t with
          | [] => .error ⟨.endInObject, []⟩
          | d :: u => if d = byte '\x7d' then .ok (a, u) else .error ⟨.noValue, d :: u⟩
        else if c = byte '\x7d' then refuseAt .noValue (c :: t)
        else refuseAt .keyNotString (c :: t)
    | _, _ => refuseAt .noValue (b :: r)

/-! ### Records -/

/-- A field of a record with drafts `σ`: its name, whether a draft has it, and a reader that adds it
to a draft. -/
structure Field (σ : Type) where
  name : String
  given : σ → Bool
  read : σ → TypedReader σ

/-- The field that a draft keeps as an option. -/
def Field.of {σ τ : Type} (name : String) (get : σ → Option τ) (set : σ → τ → σ)
    (read : TypedReader τ) : Field σ :=
  ⟨name, fun draft => (get draft).isSome, fun draft => mapReader (set draft) read⟩

/-- A structure with named fields, collected in drafts `σ`. -/
structure Record (σ α : Type) where
  name : String
  fields : List (Field σ)
  start : σ
  finish : σ → Except String α

namespace Record

variable {σ α : Type}

/-- What remains after the closing bracket of an array. -/
def endArray (s : Bytes) : Except Refusal Bytes :=
  match skipBlanks s with
  | [] => .error ⟨.endInArray, []⟩
  | b :: r =>
    if b = byte ']' then .ok r
    else if b = byte ',' then
      match skipBlanks r with
      | [] => .error ⟨.trailingText, []⟩
      | c :: t =>
        if c = byte ']' then refuseAt .trailingComma (c :: t) else refuseAt .trailingText (c :: t)
    else refuseAt .trailingText (b :: r)

/-- Where a fault that concerns a whole object is placed: after its closing bracket, if that is next. -/
def afterObject (s : Bytes) : Bytes :=
  match skipBlanks s with
  | [] => []
  | b :: r => if b = byte '\x7d' then r else b :: r

/-- Reads fields in their order, until none is left or the closing bracket follows. -/
def readPositions (depth : Nat) : List (Field σ) → (first : Bool) → σ → Reader σ
  | [], _, draft, s => .ok (draft, s)
  | f :: fs, first, draft, s =>
    match nextItem first s with
    | .error e => .error e
    | .ok (false, r) => .ok (draft, r)
    | .ok (true, r) =>
      match f.read draft depth r with
      | .error e => .error e
      | .ok (draft, r) => readPositions depth fs false draft r

/-- Reads keyed fields, until the closing bracket follows. The fuel is as for `readValue`. -/
def readKeys (fields : List (Field σ)) (depth : Nat) : (fuel : Nat) → (first : Bool) → σ → Reader σ
  | 0, _, _, s => .error ⟨.endInObject, s⟩
  | fuel + 1, first, draft, s =>
    match nextKey first s with
    | .error e => .error e
    | .ok (none, r) => .ok (draft, r)
    | .ok (some key, r) =>
      match fields.find? (·.name == key) with
      | none =>
        match (readColon r).bind skip with
        | .error e => .error e
        | .ok r => readKeys fields depth fuel false draft r
      | some f =>
        if f.given draft then .error ⟨.repeatedField key, afterObject r⟩
        else
          match (readColon r).bind (f.read draft depth) with
          | .error e => .error e
          | .ok (draft, r) => readKeys fields depth fuel false draft r

/-- Reads a record in its positional form, from the byte after the opening bracket. -/
def readArray (record : Record σ α) : TypedReader α := fun depth s => do
  let (draft, r) ← readPositions depth record.fields true record.start s
  match record.finish draft with
  | .ok a => return (a, ← endArray r)
  | .error missing =>
    let length := record.fields.findIdx (·.name == missing)
    .error ⟨.wrongLength length record.name record.fields.length, r.drop 1⟩

/-- Reads a record in its keyed form, from the byte after the opening bracket. -/
def readObject (record : Record σ α) : TypedReader α := fun depth s => do
  let (draft, r) ← readKeys record.fields depth (s.length + 1) true record.start s
  match record.finish draft with
  | .ok a => return (a, r.drop 1)
  | .error missing => .error ⟨.missingField missing, r.drop 1⟩

/-- Reads a record in either form. -/
def read (record : Record σ α) : TypedReader α := fun depth s =>
  match skipBlanks s with
  | [] => .error ⟨.endInValue, []⟩
  | b :: r =>
    match Start.of b, depth with
    | .array, 0 => refuseAt .tooDeep (b :: r)
    | .array, depth + 1 => record.readArray depth r
    | .object, 0 => refuseAt .tooDeep (b :: r)
    | .object, depth + 1 => record.readObject depth r
    | _, _ => .error (mismatch (.record record.name) (b :: r))

end Record

/-- Reads a whole text with a typed reader; a refusal is given as its message. -/
def parseAll {α : Type} (read : TypedReader α) (text : Bytes) : Except String α :=
  (readAll (read maxDepth) text).mapError (·.message text)

end Deployer.Json
