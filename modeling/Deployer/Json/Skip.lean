import Deployer.Json.Reader

/-!
# Skipping JSON values

The value of a field that nobody asked for is passed over without being decoded. Its syntax is still
checked, but not the pairing of its surrogates, the range of its numbers or the depth of its brackets.
After a comma the next item must be there, so a closing bracket in its place is not a value.
-/

namespace Deployer.Json

/-- Passes over a string, from the byte after its opening quote. -/
def skipString : Bytes → Except Refusal Bytes
  | [] => .error ⟨.endInString, []⟩
  | b :: s =>
    if b = byte '"' then .ok s
    else if b = byte '\\' then
      match s with
      | [] => .error ⟨.endInString, []⟩
      | e :: s =>
        if e = byte 'u' then
          match s with
          | h₁ :: h₂ :: h₃ :: h₄ :: s =>
            if (hexUnit? h₁ h₂ h₃ h₄).isSome then skipString s else .error ⟨.badEscape, s⟩
          | _ => .error ⟨.endInString, []⟩
        else if (simpleEscape? e).isSome then skipString s
        else .error ⟨.badEscape, s⟩
    else if b < 0x20 then .error ⟨.controlCharacter, b :: s⟩
    else skipString s

/-- Passes over the exponent of a number, if there is one. -/
def skipExponent (s : Bytes) : Except Refusal Bytes :=
  match s with
  | [] => .ok []
  | b :: r =>
    if b = byte 'e' ∨ b = byte 'E' then
      let r := match r with
        | [] => []
        | c :: t => if c = byte '-' ∨ c = byte '+' then t else r
      match r with
      | [] => .error ⟨.badNumber, []⟩
      | c :: t => if isDigit c then .ok (t.dropWhile isDigit) else .error ⟨.badNumber, t⟩
    else .ok s

/-- Passes over the fraction and the exponent of a number. -/
def skipFraction (s : Bytes) : Except Refusal Bytes :=
  match s with
  | [] => .ok []
  | b :: r =>
    if b = byte '.' then
      match readDigits r with
      | ([], rest) => refuseAt .badNumber rest
      | (_, rest) => skipExponent rest
    else skipExponent s

/-- Passes over a number. -/
def skipNumber (s : Bytes) : Except Refusal Bytes :=
  let s := match s with
    | b :: r => if b = byte '-' then r else s
    | [] => s
  match s with
  | [] => .error ⟨.badNumber, []⟩
  | b :: r =>
    if b = byte '0' then
      match r with
      | c :: _ => if isDigit c then refuseAt .badNumber r else skipFraction r
      | [] => .ok []
    else if isDigit b then skipFraction (r.dropWhile isDigit)
    else .error ⟨.badNumber, r⟩

/-- Passes over a key and the colon after it. -/
def skipKey (s : Bytes) : Except Refusal Bytes :=
  match skipBlanks s with
  | [] => .error ⟨.endInObject, []⟩
  | b :: r => if b = byte '"' then (skipString r).bind readColon else refuseAt .keyNotString (b :: r)

mutual

/-- Passes over a value, blanks before it included. The fuel is as for `readValue`. -/
def skipValue : (fuel : Nat) → Bytes → Except Refusal Bytes
  | 0, s => .error ⟨.endInValue, s⟩
  | fuel + 1, s =>
    match skipBlanks s with
    | [] => .error ⟨.endInValue, []⟩
    | b :: r =>
      match Start.of b with
      | .null => readWord ['u', 'l', 'l'] r
      | .true => readWord ['r', 'u', 'e'] r
      | .false => readWord ['a', 'l', 's', 'e'] r
      | .number => skipNumber (b :: r)
      | .string => skipString r
      | .array => skipItems fuel true r
      | .object => skipMembers fuel true r
      | .other => refuseAt .noValue (b :: r)

/-- Passes over the items of an array and its closing bracket. -/
def skipItems : (fuel : Nat) → (first : Bool) → Bytes → Except Refusal Bytes
  | 0, _, s => .error ⟨.endInArray, s⟩
  | fuel + 1, first, s =>
    match skipBlanks s with
    | [] => .error ⟨.endInArray, []⟩
    | b :: r =>
      if b = byte ']' then .ok r
      else if !first && b != byte ',' then refuseAt .noCommaInArray (b :: r)
      else
        match skipValue fuel (if first then b :: r else r) with
        | .error e => .error e
        | .ok r => skipItems fuel false r

/-- Passes over the members of an object and its closing bracket. -/
def skipMembers : (fuel : Nat) → (first : Bool) → Bytes → Except Refusal Bytes
  | 0, _, s => .error ⟨.endInObject, s⟩
  | fuel + 1, first, s =>
    match skipBlanks s with
    | [] => .error ⟨.endInObject, []⟩
    | b :: r =>
      if b = byte '\x7d' then .ok r
      else if !first && b != byte ',' then refuseAt .noCommaInObject (b :: r)
      else
        match skipKey (if first then b :: r else r) with
        | .error e => .error e
        | .ok r =>
          match skipValue fuel r with
          | .error e => .error e
          | .ok r => skipMembers fuel false r

end

/-- Passes over one value. -/
def skip (s : Bytes) : Except Refusal Bytes := skipValue (2 * s.length + 2) s

end Deployer.Json
