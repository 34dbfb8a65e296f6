import ComponentCompiler.Bytes.Basic
import ComponentCompiler.Number.Binary64

/-!
# Durations

A duration is a number of nanoseconds that fits in 64 bits with its sign. Its text is a sequence of
decimal numbers, each with a unit, such as `1h15m30.918s`. Printing picks the largest fitting unit
below a second, and hours, minutes and seconds from there on.
-/

namespace ComponentCompiler.Number.Duration

/-- The nanoseconds of each unit. The micro sign has two spellings. -/
def units : List (Bytes × Nat) :=
  [(Bytes.lit "ns", 1), (Bytes.lit "us", 1000), (Bytes.lit "µs", 1000), (Bytes.lit "μs", 1000),
    (Bytes.lit "ms", 1000000), (Bytes.lit "s", 1000000000), (Bytes.lit "m", 60000000000),
    (Bytes.lit "h", 3600000000000)]

/-- The number that decimal digits denote. -/
def digitsValue (digits : Bytes) : Nat := digits.foldl (fun n d => 10 * n + (d.toNat - 48)) 0

/-- The digits of a fraction that count: further ones are ignored once the number would
no longer fit. -/
def fractionDigits : Nat → Bytes → Nat × Nat
  | _, [] => (0, 0)
  | n, d :: ds =>
    let m := 10 * n + (d.toNat - 48)
    if (signedLimit - 1) / 10 < n ∨ signedLimit < m then (0, 0)
    else
      match fractionDigits m ds with
      | (_, 0) => (m, 1)
      | (value, count) => (value, count + 1)

/-- The nanoseconds of a fraction of a unit, cut to a whole number after rounding to binary
floating point. -/
def fractionOf (unit : Nat) (digits : Bytes) : Nat :=
  let (value, count) := fractionDigits 0 digits
  let product := do
    let f ← Binary64.ofNat? value
    let u ← Binary64.ofRatio? unit (Nat.pow 10 count)
    Binary64.mul? f u
  (product.map Binary64.floor).getD 0

/-- Whether a byte belongs to a number rather than to a unit. -/
def isNumberByte (c : UInt8) : Bool := Ascii.isDigit c || c == Ascii.dot

/-- The nanoseconds of one number with its unit. -/
def term? (whole fraction unit : Bytes) : Option Nat :=
  match units.lookup unit with
  | none => none
  | some u =>
    let w := digitsValue whole
    if signedLimit < w ∨ signedLimit / u < w then none
    else
      let total := w * u + fractionOf u fraction
      if signedLimit < total then none else some total

/-- The nanoseconds of the number with its unit in front of `s`, and what follows it. -/
def nextTerm? (s : Bytes) : Option (Nat × Bytes) :=
  let whole := s.takeWhile Ascii.isDigit
  let afterWhole := s.drop whole.length
  let hasPoint := afterWhole.head? == some Ascii.dot
  let fraction := if hasPoint then afterWhole.tail.takeWhile Ascii.isDigit else []
  let afterNumber := if hasPoint then afterWhole.tail.drop fraction.length else afterWhole
  let unit := afterNumber.takeWhile fun c => !isNumberByte c
  if whole.isEmpty && fraction.isEmpty then none
  else (term? whole fraction unit).map fun n => (n, afterNumber.drop unit.length)

/-- The sum of numbers with units. -/
def terms? (total : Nat) (s : Bytes) : Option Nat :=
  if s.isEmpty then some total
  else
    match nextTerm? s with
    | none => none
    | some (n, rest) =>
      if signedLimit < total + n then none
      else if _h : rest.length < s.length then terms? (total + n) rest
      else none
termination_by s.length
decreasing_by exact _h

/-- The duration that a text denotes. -/
def parse? (s : Bytes) : Option Int :=
  let negative := s.head? = some Ascii.dash
  let body := if negative ∨ s.head? = some Ascii.plus then s.tail else s
  if body = [Ascii.zero] then some 0
  else if body = [] then none
  else
    match terms? 0 body with
    | none => none
    | some n => if negative then some (-n) else if n < signedLimit then some n else none

/-- The digits of `n / 10 ^ places` after the point, without trailing zeros, behind the point. -/
def fractionText (n places : Nat) : Bytes :=
  let digits := (List.replicate (places - (Bytes.ofNat n).length) Ascii.zero ++ Bytes.ofNat n)
  let kept := (digits.reverse.dropWhile (· == Ascii.zero)).reverse
  if kept.isEmpty then [] else Ascii.dot :: kept

/-- `n / 10 ^ places` in decimal, without trailing zeros. -/
def decimal (n places : Nat) : Bytes :=
  Bytes.ofNat (n / Nat.pow 10 places) ++ fractionText (n % Nat.pow 10 places) places

/-- The text of a number of nanoseconds. -/
def magnitude (n : Nat) : Bytes :=
  if n = 0 then Bytes.lit "0s"
  else if n < 1000 then decimal n 0 ++ Bytes.lit "ns"
  else if n < 1000000 then decimal n 3 ++ Bytes.lit "µs"
  else if n < 1000000000 then decimal n 6 ++ Bytes.lit "ms"
  else
    let seconds := n / 1000000000
    let minutes := seconds / 60
    let hours := minutes / 60
    (if 0 < hours then Bytes.ofNat hours ++ Bytes.lit "h" else []) ++
      (if 0 < minutes then Bytes.ofNat (minutes % 60) ++ Bytes.lit "m" else []) ++
      Bytes.ofNat (seconds % 60) ++ fractionText (n % 1000000000) 9 ++ Bytes.lit "s"

/-- The text of a duration. -/
def text (d : Int) : Bytes :=
  if d < 0 then Ascii.dash :: magnitude d.natAbs else magnitude d.natAbs

end ComponentCompiler.Number.Duration
