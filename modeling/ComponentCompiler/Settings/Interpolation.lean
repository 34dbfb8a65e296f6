import ComponentCompiler.Bytes.Basic

/-!
# Environment references

A settings text may refer to environment variables, as a dollar sign with a name in braces, or with
a name and a default that counts when the variable is empty. References are replaced in a single
pass from left to right; what is put in their place is not searched again.
-/

namespace ComponentCompiler.Settings

/-- The environment: the value of each variable, empty when it is not set. -/
abbrev Environment := Bytes → Bytes

/-- A reference to a variable, the default that counts when it is empty, and the bytes
that it takes. -/
structure EnvReference where
  name : Bytes
  default : Bytes
  size : Nat
  deriving DecidableEq, Repr, Inhabited

/-- A byte of a variable's name. -/
def isEnvNameByte (c : UInt8) : Bool := c != Ascii.closeBrace && c != Ascii.colon

/-- The reference, if any, that `s` continues after a dollar sign. -/
def envReference? (s : Bytes) : Option EnvReference :=
  match s with
  | c :: rest =>
    if c = Ascii.openBrace then
      let name := rest.takeWhile isEnvNameByte
      let after := rest.drop name.length
      if name = [] then none
      else
        match after with
        | d :: more =>
          if d = Ascii.closeBrace then some ⟨name, [], name.length + 2⟩
          else if more.head? = some Ascii.dash then
            let default := more.tail.takeWhile (· != Ascii.closeBrace)
            if (more.tail.drop default.length).isEmpty then none
            else some ⟨name, default, name.length + default.length + 4⟩
          else none
        | [] => none
    else none
  | [] => none

/-- What a reference stands for. -/
def EnvReference.value (env : Environment) (r : EnvReference) : Bytes :=
  let value := env r.name
  if value = [] then r.default else value

/-- The leftmost reference in a text. -/
def findReference? : Bytes → Option EnvReference
  | [] => none
  | c :: rest =>
    if c = Ascii.dollar then (envReference? rest).or (findReference? rest) else findReference? rest

/-- What is put in the place of a matched text: the value of the reference that it holds, or the
text itself when it holds none. -/
def replacement (env : Environment) (matched : Bytes) : Bytes :=
  match findReference? matched with
  | some r => r.value env
  | none => matched

/-- A text with its references replaced. -/
def interpolate (env : Environment) : Bytes → Bytes
  | [] => []
  | c :: rest =>
    if c = Ascii.dollar then
      match envReference? rest with
      | some r => replacement env (c :: rest.take r.size) ++ interpolate env (rest.drop r.size)
      | none => c :: interpolate env rest
    else c :: interpolate env rest
termination_by s => s.length
decreasing_by all_goals simp only [List.length_drop, List.length_cons]; omega

/-- The names of the variables that a text refers to, in order. -/
def variableNames : Bytes → List Bytes
  | [] => []
  | c :: rest =>
    if c = Ascii.dollar then
      match envReference? rest with
      | some r => r.name :: variableNames (rest.drop r.size)
      | none => variableNames rest
    else variableNames rest
termination_by s => s.length
decreasing_by all_goals simp only [List.length_drop, List.length_cons]; omega

end ComponentCompiler.Settings
