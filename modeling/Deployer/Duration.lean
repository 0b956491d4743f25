/-!
# Durations

A duration is a number of nanoseconds. `Duration.text` writes it in the largest of the units
`s`, `ms`, `µs` and `ns` whose integer part is not zero, followed by the exact fraction without
trailing zeros: `2s`, `99.99995ms`, `1.5µs`, `0ns`.
-/

namespace Deployer

/-- A length of time, or a point in time counted from a start, in nanoseconds. -/
abbrev Duration := Nat

namespace Duration

/-- So many milliseconds. -/
def ofMillis (n : Nat) : Duration := n * 1000000

/-- So many seconds. -/
def ofSecs (n : Nat) : Duration := n * 1000000000

/-- The whole milliseconds in a duration. -/
def millis (d : Duration) : Nat := d / 1000000

/-- The whole seconds in a duration. -/
def wholeSecs (d : Duration) : Nat := d / 1000000000

/-- The nanoseconds that remain after the whole seconds. -/
def subsecNanos (d : Duration) : Nat := d % 1000000000

/-- The next whole millisecond. -/
def upToMillis (d : Duration) : Duration := d + (1000000 - d % 1000000) % 1000000

/-- The longest single wait: thirty years of 365 days. -/
def longestWait : Duration := ofSecs (30 * 365 * 24 * 60 * 60)

/-- How long a wait for a duration really takes. The timer counts whole milliseconds: a wait begins at
one and ends at the first by which it is over, unless that is too far away. -/
def awaited (d : Duration) : Duration := min d.upToMillis longestWait

/-- The digits of `n` after a decimal point, with `width` places and trailing zeros dropped.
Nothing is written for zero. -/
def fraction (width n : Nat) : List Char :=
  let digits := Nat.toDigits 10 n
  let padded := List.replicate (width - digits.length) '0' ++ digits
  match (padded.reverse.dropWhile (· == '0')).reverse with
  | [] => []
  | kept => '.' :: kept

/-- The characters of a count of `unit`s, where `places` decimal places make one nanosecond. -/
def inUnit (d : Duration) (places : Nat) (unit : String) : List Char :=
  Nat.toDigits 10 (d / Nat.pow 10 places) ++ fraction places (d % Nat.pow 10 places) ++ unit.toList

/-- The written form, in the largest unit with a nonzero integer part. -/
def text (d : Duration) : String :=
  String.ofList <|
    if 1000000000 ≤ d then inUnit d 9 "s"
    else if 1000000 ≤ d then inUnit d 6 "ms"
    else if 1000 ≤ d then inUnit d 3 "µs"
    else inUnit d 0 "ns"

end Duration

end Deployer
