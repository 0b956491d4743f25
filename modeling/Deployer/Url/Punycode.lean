/-!
# Punycode

A label with characters beyond ASCII is written in ASCII: first its ASCII characters, then a hyphen,
and then, for each other character in increasing order, how far the decoder has to step until it
inserts that character. Steps are variable-length numbers in base 36, least digit first; a digit below
a threshold ends the number, and the thresholds follow the size of the last step.

All loops have a measure: the bias loop divides its argument, the digits of a step shrink the step,
encoding works through the distinct characters, and decoding shortens its input.
-/

namespace Deployer.Url.Punycode

/-- The character of a digit: `a` to `z`, then `0` to `9`. -/
def digitChar (d : Nat) : Char :=
  if d < 26 then Char.ofNat (0x61 + d) else Char.ofNat (0x30 + (d - 26))

/-- The value of a digit. -/
def digit? (c : Char) : Option Nat :=
  let n := c.toNat
  if 0x61 ≤ n ∧ n ≤ 0x7A then some (n - 0x61)
  else if 0x30 ≤ n ∧ n ≤ 0x39 then some (n - 0x30 + 26)
  else none

/-- The threshold below which a digit of weight place `k` ends a number. -/
def threshold (bias k : Nat) : Nat := min 26 (max 1 (k - bias))

theorem threshold_pos (bias k : Nat) : 0 < threshold bias k := by
  simp only [threshold]; omega

theorem threshold_le (bias k : Nat) : threshold bias k ≤ 26 := by
  simp only [threshold]; omega

/-- The bias of a step that has been scaled down: each division by 35 makes one more place of 36. -/
def biasOf (step : Nat) : Nat :=
  if 455 < step then 36 + biasOf (step / 35) else 36 * step / (step + 38)
termination_by step

/-- The bias after a step, when the text has so many characters. -/
def adapt (step count : Nat) (first : Bool) : Nat :=
  let scaled := if first then step / 700 else step / 2
  biasOf (scaled + scaled / count)

/-! ### Encoding -/

/-- The digits of a number from weight place `k` on. -/
def writeStep (bias k step : Nat) : List Char :=
  let t := threshold bias k
  if step < t then [digitChar step]
  else digitChar (t + (step - t) % (36 - t)) :: writeStep bias (k + 36) ((step - t) / (36 - t))
termination_by step
decreasing_by
  have hpos := threshold_pos bias k
  exact Nat.lt_of_le_of_lt (Nat.div_le_self _ _) (by omega)

/-- Where an encoder stands: the step so far, the bias, and how many characters are written. -/
structure Encoder where
  step : Nat
  bias : Nat
  count : Nat

/-- Writes the occurrences of one character, with the steps over smaller ones between them. -/
def writeChar (basic n : Nat) : List Char → Encoder → List Char × Encoder
  | [], e => ([], e)
  | c :: cs, e =>
    if c.toNat < n then writeChar basic n cs { e with step := e.step + 1 }
    else if c.toNat = n then
      let written := writeStep e.bias 36 e.step
      let bias := adapt e.step (e.count + 1) (e.count == basic)
      let (more, e) := writeChar basic n cs ⟨0, bias, e.count + 1⟩
      (written ++ more, e)
    else writeChar basic n cs e

/-- Writes the given characters, in increasing order, where `n` is the next one not passed yet. -/
def writeChars (basic : Nat) (text : List Char) : List Nat → (n : Nat) → Encoder → List Char
  | [], _, _ => []
  | m :: ms, n, e =>
    let start := { e with step := e.step + (m - n) * (e.count + 1) }
    let (written, e) := writeChar basic m text start
    written ++ writeChars basic text ms (m + 1) { e with step := e.step + 1 }

/-- Inserts a number into an increasing list, unless it is there. -/
def insertDistinct (x : Nat) : List Nat → List Nat
  | [] => [x]
  | y :: ys =>
    if x < y then x :: y :: ys else if x = y then y :: ys else y :: insertDistinct x ys

/-- Whether a character is in ASCII. -/
def isAscii (c : Char) : Bool := c.toNat < 0x80

/-- The ASCII form of a label, without the marker in front. -/
def encode (label : List Char) : List Char :=
  let basic := label.filter isAscii
  let others := (label.filter (!isAscii ·)).foldl (fun ms c => insertDistinct c.toNat ms) []
  basic ++ (if basic.isEmpty then [] else ['-']) ++
    writeChars basic.length label others 128 ⟨0, 72, basic.length⟩

/-! ### Decoding -/

/-- Reads one number: the step, and what follows it. -/
def readStep (bias : Nat) : (k weight : Nat) → List Char → Option (Nat × List Char)
  | _, _, [] => none
  | k, weight, c :: cs =>
    match digit? c with
    | none => none
    | some d =>
      let t := threshold bias k
      if d < t then some (d * weight, cs)
      else (readStep bias (k + 36) (weight * (36 - t)) cs).map fun (n, rest) => (d * weight + n, rest)

theorem readStep_length {bias : Nat} {cs : List Char} {k weight n : Nat} {rest : List Char}
    (h : readStep bias k weight cs = some (n, rest)) : rest.length < cs.length := by
  induction cs generalizing k weight n with
  | nil => simp [readStep] at h
  | cons c cs ih =>
    simp only [readStep] at h
    split at h
    · simp at h
    · split at h
      · simp only [Option.some.injEq, Prod.mk.injEq] at h
        simp [← h.2]
      · obtain ⟨⟨m, r⟩, hr, heq⟩ := Option.map_eq_some_iff.1 h
        simp only [Prod.mk.injEq] at heq
        obtain ⟨-, rfl⟩ := heq
        exact Nat.lt_succ_of_lt (ih hr)

/-- Inserts the characters that the rest of the input tells, where the decoder stands before place
`i` with code point `n`; only before the first insertion is that place zero. -/
def insertChars (bias n i : Nat) (text : List Char) (cs : List Char) : Option (List Char) :=
  match cs with
  | [] => some text
  | c :: cs =>
    match _h : readStep bias 36 1 (c :: cs) with
    | none => none
    | some (step, rest) =>
      let count := text.length + 1
      let place := i + step
      let code := n + place / count
      if code.isValidChar then
        insertChars (adapt step count (i == 0)) code (place % count + 1)
          (text.insertIdx (place % count) (Char.ofNat code)) rest
      else none
termination_by cs.length
decreasing_by exact readStep_length _h

/-- The label of an ASCII form without the marker in front. -/
def decode? (cs : List Char) : Option (List Char) :=
  match cs.reverse.span (· != '-') with
  | (after, []) => insertChars 72 128 0 [] after.reverse
  | (after, _ :: before) => insertChars 72 128 0 before.reverse after.reverse

end Deployer.Url.Punycode
