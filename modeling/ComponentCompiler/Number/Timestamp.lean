import ComponentCompiler.Bytes.Basic

/-!
# Timestamps

A timestamp is a date such as `2001-12-14`, alone or with a time of day behind it. The time follows
a `T` and ends in a zone, or follows a space and has none.
-/

namespace ComponentCompiler.Number.Timestamp

/-- A number of one or two digits, and what follows it. -/
def number? : Bytes → Option (Nat × Bytes)
  | a :: b :: rest =>
    if !Ascii.isDigit a then none
    else if Ascii.isDigit b then some (10 * (a.toNat - 48) + (b.toNat - 48), rest)
    else some (a.toNat - 48, b :: rest)
  | [a] => if Ascii.isDigit a then some (a.toNat - 48, []) else none
  | [] => none

/-- What follows a byte. -/
def after? (b : UInt8) : Bytes → Option Bytes
  | c :: rest => if c = b then some rest else none
  | [] => none

/-- The days of a month. -/
def daysIn (year month : Nat) : Nat :=
  if month = 2 then
    if year % 4 = 0 ∧ (year % 100 ≠ 0 ∨ year % 400 = 0) then 29 else 28
  else if month = 4 ∨ month = 6 ∨ month = 9 ∨ month = 11 then 30
  else 31

/-- What follows a date whose year has four digits. -/
def date? (s : Bytes) : Option Bytes := do
  let year := s.takeWhile Ascii.isDigit
  if year.length ≠ 4 then failure
  let s ← after? Ascii.dash (s.drop 4)
  let (month, s) ← number? s
  let s ← after? Ascii.dash s
  let (day, s) ← number? s
  let y := year.foldl (fun n d => 10 * n + (d.toNat - 48)) 0
  if 1 ≤ month ∧ month ≤ 12 ∧ 1 ≤ day ∧ day ≤ daysIn y month then return s else failure

/-- What follows a fraction of a second, if there is one. -/
def dropFraction (s : Bytes) : Bytes :=
  match s with
  | p :: d :: rest =>
    if (p = Ascii.dot ∨ p = Ascii.comma) ∧ Ascii.isDigit d then rest.dropWhile Ascii.isDigit else s
  | _ => s

/-- What follows a time of day. -/
def time? (s : Bytes) : Option Bytes := do
  let (hour, s) ← number? s
  let s ← after? Ascii.colon s
  let (minute, s) ← number? s
  let s ← after? Ascii.colon s
  let (second, s) ← number? s
  if hour < 24 ∧ minute < 60 ∧ second < 60 then return dropFraction s else failure

/-- Whether a text is a zone: `Z`, or a sign and an offset in hours and minutes. -/
def isZone (s : Bytes) : Bool :=
  match s with
  | [0x5a] => true
  | [sign, a, b, colon, c, d] =>
    (sign == Ascii.plus || sign == Ascii.dash) && colon == Ascii.colon &&
      [a, b, c, d].all Ascii.isDigit &&
      10 * (a.toNat - 48) + (b.toNat - 48) ≤ 24 && 10 * (c.toNat - 48) + (d.toNat - 48) ≤ 60
  | _ => false

/-- Whether a text is a timestamp. -/
def isTimestamp (s : Bytes) : Bool :=
  match date? s with
  | none => false
  | some [] => true
  | some (t :: rest) =>
    if t = 0x54 ∨ t = 0x74 then (time? rest).any isZone
    else if t = Ascii.space then
      (time? (rest.dropWhile (· == Ascii.space))).any List.isEmpty
    else false

end ComponentCompiler.Number.Timestamp
