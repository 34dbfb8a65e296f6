/-!
# Binary floating point

Positive numbers of the 64-bit binary floating-point format, as a mantissa of at most 53 bits times
a power of two. Settings hold decimal fractions, and these are rounded to this format, to nearest
with ties to even, before they are cut to whole numbers.
-/

namespace ComponentCompiler.Number

/-- One more than the largest 64-bit integer with a sign. -/
def signedLimit : Nat := Nat.pow 2 63

/-- The number `mantissa * 2 ^ exponent`. -/
structure Binary64 where
  mantissa : Nat
  exponent : Int
  deriving DecidableEq, Repr, Inhabited

namespace Binary64

/-- `n * 2 ^ e` as a ratio of natural numbers, where `n` is the numerator so far. -/
def scale (num den : Nat) (e : Int) : Nat × Nat :=
  match e with
  | .ofNat k => (num * Nat.pow 2 k, den)
  | .negSucc k => (num, den * Nat.pow 2 (k + 1))

/-- The quotient rounded to nearest, a tie going to the even neighbour. -/
def roundDiv (num den : Nat) : Nat :=
  let q := num / den
  let r := num % den
  if 2 * r < den then q else if den < 2 * r then q + 1 else q + q % 2

/-- The exponent of the last place of `num / den`: the mantissa has 53 bits, fewer only for the
smallest numbers. -/
def lastPlace (num den : Nat) : Int :=
  let e : Int := (Nat.log2 num : Int) - (Nat.log2 den : Int) - 52
  let (n, d) := scale num den (-e)
  let e := if n / d < Nat.pow 2 52 then e - 1 else e
  max e (-1074)

/-- The number nearest to `num / den`, or nothing when it is too large. -/
def ofRatio? (num den : Nat) : Option Binary64 :=
  if num = 0 then some ⟨0, 0⟩
  else
    let e := lastPlace num den
    let (n, d) := scale num den (-e)
    let m := roundDiv n d
    if Nat.pow 2 53 ≤ m ∧ 971 ≤ e ∨ 971 < e then none else some ⟨m, e⟩

/-- The number nearest to a natural number, or nothing when it is too large. -/
def ofNat? (n : Nat) : Option Binary64 := ofRatio? n 1

/-- The number nearest to the product. -/
def mul? (x y : Binary64) : Option Binary64 :=
  let (n, d) := scale (x.mantissa * y.mantissa) 1 (x.exponent + y.exponent)
  ofRatio? n d

/-- The whole part. -/
def floor (x : Binary64) : Nat :=
  let (n, d) := scale x.mantissa 1 x.exponent
  n / d

end Binary64

end ComponentCompiler.Number
