import ComponentCompiler.Bytes.Basic
import ComponentCompiler.Number.Binary64

/-!
# Number literals

Integers are written in decimal or, behind `0x`, `0o`, `0b` or a plain `0`, in another base. Decimal
fractions have an optional point and an optional exponent.
-/

namespace ComponentCompiler.Number

/-! ## Integers -/

/-- The value of a digit in a base of up to 36. -/
def digitValue? (base : Nat) (c : UInt8) : Option Nat :=
  let l := Ascii.toLower c
  let v := if Ascii.isDigit c then some (c.toNat - 48)
    else if Ascii.isLower l then some (l.toNat - 87) else none
  v.filter (· < base)

/-- The number that digits denote in a base; no digits denote zero. -/
def digits? (base : Nat) (s : Bytes) : Option Nat :=
  s.foldl (fun acc c => acc.bind fun n => (digitValue? base c).map (base * n + ·)) (some 0)

/-- The number of a literal without a sign. A base letter counts only if something follows it. -/
def natural? : Bytes → Option Nat
  | [] => none
  | 0x30 :: b :: c :: rest =>
    let l := Ascii.toLower b
    if l = 0x62 then digits? 2 (c :: rest)
    else if l = 0x6f then digits? 8 (c :: rest)
    else if l = 0x78 then digits? 16 (c :: rest)
    else digits? 8 (b :: c :: rest)
  | 0x30 :: rest => digits? 8 rest
  | s => digits? 10 s

/-- A number with its sign, if it fits in 64 bits. -/
def signed? (negative : Bool) (n : Nat) : Option Int :=
  if negative then if n ≤ signedLimit then some (-n) else none
  else if n < signedLimit then some n else none

/-- A text without its sign, and whether that is a dash. -/
def splitSign : Bytes → Bool × Bytes
  | 0x2b :: rest => (false, rest)
  | 0x2d :: rest => (true, rest)
  | s => (false, s)

/-- The integer of a literal with an optional sign. It fits in 64 bits; without a sign it may use
all of them. -/
def integer? (s : Bytes) : Option Int :=
  let (negative, body) := splitSign s
  (natural? body).bind fun n =>
    if body.length = s.length then if n < 2 * signedLimit then some (n : Int) else none
    else signed? negative n

/-- The integer of a literal whose sign stands behind the base, as in `0b-101`. -/
def innerSigned? : Bytes → Option Int
  | 0x30 :: b :: rest =>
    let base := if b = 0x62 then some 2 else if b = 0x6f then some 8 else none
    base.bind fun base =>
      let (negative, body) := splitSign rest
      if body.isEmpty then none else (digits? base body).bind (signed? negative)
  | _ => none

/-! ## Decimal fractions -/

/-- The number `coefficient * 10 ^ exponent`, with a sign. -/
structure Decimal where
  negative : Bool
  coefficient : Nat
  exponent : Int
  deriving DecidableEq, Repr, Inhabited

namespace Decimal

/-- The exponent behind a fraction: nothing, or the letter `e` and an integer. -/
def exponent? : Bytes → Option Int
  | [] => some 0
  | e :: rest =>
    if Ascii.toLower e = 0x65 then
      let (negative, digits) := splitSign rest
      if digits.isEmpty || !digits.all Ascii.isDigit then none
      else (digits? 10 digits).map fun n => if negative then -(n : Int) else n
    else none

/-- The number that a decimal literal denotes. -/
def parse? (s : Bytes) : Option Decimal :=
  let (negative, body) := splitSign s
  let whole := body.takeWhile Ascii.isDigit
  let rest := body.drop whole.length
  let hasPoint := rest.head? == some Ascii.dot
  let fraction := if hasPoint then rest.tail.takeWhile Ascii.isDigit else []
  let rest := if hasPoint then rest.tail.drop fraction.length else rest
  if whole.isEmpty && fraction.isEmpty then none
  else do
    let e ← exponent? rest
    let n ← digits? 10 (whole ++ fraction)
    return ⟨negative, n, e - fraction.length⟩

/-- The magnitude in binary floating point, or nothing when it is too large. Numbers far outside the
range are decided by their number of digits. -/
def magnitude? (d : Decimal) : Option Binary64 :=
  let size : Int := (Bytes.ofNat d.coefficient).length + d.exponent
  if d.coefficient = 0 ∨ size < -330 then some ⟨0, 0⟩
  else if 310 < size then none
  else
    match d.exponent with
    | .ofNat k => Binary64.ofRatio? (d.coefficient * Nat.pow 10 k) 1
    | .negSucc k => Binary64.ofRatio? d.coefficient (Nat.pow 10 (k + 1))

end Decimal

/-- Whether underscores stand only between digits. -/
def underscoresSeparate : Bool → Bytes → Bool
  | _, [] => true
  | afterDigit, c :: rest =>
    if c = 0x5f then afterDigit && rest.head?.any Ascii.isDigit && underscoresSeparate false rest
    else underscoresSeparate (Ascii.isDigit c) rest

/-- A text without its underscores. -/
def dropUnderscores (s : Bytes) : Bytes := s.filter (· != 0x5f)

end ComponentCompiler.Number
