import ComponentCompiler.Number.Literal
import ComponentCompiler.Number.Timestamp

/-!
# Values of scalars

A plain scalar is a value of the kind that its text looks like. A tag asks for a kind, and a text
that is of another one is an error.
-/

namespace ComponentCompiler.Yaml

open Number

/-- A floating-point value. -/
inductive FloatValue where
  | finite (negative : Bool) (magnitude : Binary64)
  | infinite (negative : Bool)
  | nan
  deriving DecidableEq, Repr, Inhabited

namespace FloatValue

/-- The float of a decimal, or nothing when it is too large. -/
def ofDecimal? (d : Decimal) : Option FloatValue := d.magnitude?.map (.finite d.negative)

/-- The float nearest to an integer. -/
def ofInt (n : Int) : FloatValue :=
  match Binary64.ofNat? n.natAbs with
  | some m => finite (n < 0) m
  | none => infinite (n < 0)

/-- A float as a 64-bit integer, cut towards zero. What is below the range, and `2 ^ 63` itself,
gives the smallest integer; what is above has none. -/
def toInt? : FloatValue → Option Int
  | finite false m =>
    let n := m.floor
    if signedLimit < n then none else if n = signedLimit then some (-signedLimit) else some n
  | finite true m => some (-(min m.floor signedLimit : Nat))
  | infinite true => some (-signedLimit)
  | infinite false => none
  | nan => none

end FloatValue

/-- The value of a scalar. -/
inductive Value where
  | null
  | bool (b : Bool)
  | int (n : Int)
  | float (x : FloatValue)
  | timestamp
  | merge
  | text (s : Bytes)
  deriving DecidableEq, Repr, Inhabited

namespace Value

/-- The tag of a value's kind. -/
def tag : Value → Bytes
  | null => Bytes.lit "!!null"
  | bool _ => Bytes.lit "!!bool"
  | int _ => Bytes.lit "!!int"
  | float _ => Bytes.lit "!!float"
  | timestamp => Bytes.lit "!!timestamp"
  | merge => Bytes.lit "!!merge"
  | text _ => Bytes.lit "!!str"

/-- The texts that stand for a value of their own. -/
def named : List (String × Value) :=
  [("true", bool true), ("True", bool true), ("TRUE", bool true),
    ("false", bool false), ("False", bool false), ("FALSE", bool false),
    ("", null), ("~", null), ("null", null), ("Null", null), ("NULL", null),
    (".nan", float .nan), (".NaN", float .nan), (".NAN", float .nan),
    (".inf", float (.infinite false)), (".Inf", float (.infinite false)),
    (".INF", float (.infinite false)), ("+.inf", float (.infinite false)),
    ("+.Inf", float (.infinite false)), ("+.INF", float (.infinite false)),
    ("-.inf", float (.infinite true)), ("-.Inf", float (.infinite true)),
    ("-.INF", float (.infinite true)), ("<<", merge)]

/-- The named value of a text. -/
def named? (s : Bytes) : Option Value := (named.find? fun p => Bytes.lit p.1 == s).map (·.2)

/-- The number that a text denotes when it starts with a digit or a sign.
Underscores are ignored. -/
def number? (s : Bytes) : Option Value :=
  let plain := dropUnderscores s
  ((integer? plain).map int).or
    ((((Decimal.parse? plain).bind FloatValue.ofDecimal?).map float).or
      ((innerSigned? plain).map int))

/-- The number that a text denotes when it starts with a point. -/
def fraction? (s : Bytes) : Option Value :=
  if underscoresSeparate false s then
    ((Decimal.parse? (dropUnderscores s)).bind FloatValue.ofDecimal?).map float
  else none

/-- The value that a text looks like. Timestamps are looked for only if `timestamps`. -/
def ofText (timestamps : Bool) (s : Bytes) : Value :=
  match named? s with
  | some v => v
  | none =>
    let number :=
      match s.head? with
      | none => none
      | some c =>
        if c = Ascii.dot then fraction? s
        else if Ascii.isDigit c ∨ c = Ascii.plus ∨ c = Ascii.dash then
          if timestamps && Timestamp.isTimestamp s then some timestamp else number? s
        else none
    number.getD (text s)

/-- The value of a text under a tag; none if it is of another kind. An integer will
do for a float. -/
def ofTagged? (tag s : Bytes) : Option Value :=
  if tag = Bytes.lit "!!str" ∨ tag = Bytes.lit "!!binary" then some (text s)
  else
    let v := ofText (tag == Bytes.lit "!!timestamp") s
    if v.tag = tag then some v
    else
      match v with
      | int n =>
        if tag = Bytes.lit "!!float" ∧ n < signedLimit then some (float (.ofInt n)) else none
      | _ => none

end Value

end ComponentCompiler.Yaml
