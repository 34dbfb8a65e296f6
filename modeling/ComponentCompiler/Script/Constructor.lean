import ComponentCompiler.Script.Scan

/-!
# The component's constructor

The constructor is the first function of the script that declares exactly the parameters `props` and
`el`. Locating it means finding the braces of its body.
-/

namespace ComponentCompiler.Script

/-- A located constructor: its name, empty when it has none, its parameter list as written, and the
offsets of the braces of its body. -/
structure Constructor where
  name : Bytes
  params : Bytes
  opening : Nat
  closing : Nat
  deriving DecidableEq, Repr, Inhabited

/-- Why a script has no usable constructor. -/
inductive ConstructorFault where
  /-- No function declares the parameters. -/
  | absent
  /-- The body that starts at `opening` is never closed. -/
  | unclosed (name params : Bytes) (opening : Nat)
  deriving DecidableEq, Repr, Inhabited

/-- A constructor's header: the function's name, the offsets of its parameter list, the opening
brace of its body and the tokens after that brace. -/
structure Header where
  name : Bytes
  paramsStart : Nat
  paramsStop : Nat
  brace : Token
  body : List Token
  deriving DecidableEq, Repr, Inhabited

/-- The tokens after an optional star. -/
def skipStar : List Token → List Token
  | t :: rest => if t.isPunct Ascii.star then rest else t :: rest
  | [] => []

/-- An optional name, empty when there is none, and the tokens after it. -/
def takeName : List Token → Bytes × List Token
  | t :: rest => if t.kind = .ident then (t.text, rest) else ([], t :: rest)
  | [] => ([], [])

/-- The header that follows a `function` keyword, if its parameters are `props` and `el`. -/
def header? (ts : List Token) : Option Header :=
  let (name, rest) := takeName (skipStar ts)
  match rest with
  | lparen :: props :: comma :: el :: rparen :: brace :: body =>
    if lparen.isPunct Ascii.openParen && props.text == Bytes.lit "props" &&
        comma.text == Bytes.lit "," && el.text == Bytes.lit "el" &&
        rparen.isPunct Ascii.closeParen && brace.isPunct Ascii.openBrace then
      some ⟨name, lparen.start, rparen.stop, brace, body⟩
    else none
  | _ => none

/-- The first header among significant tokens. -/
def firstHeader? : List Token → Option Header
  | [] => none
  | t :: rest =>
    if t.isIdent (Bytes.lit "function") then
      match header? rest with
      | some h => some h
      | none => firstHeader? rest
    else firstHeader? rest

/-- The brace that closes a brace opened earlier. `depth` counts the braces opened since then that
are still open. -/
def closingBrace? : Nat → List Token → Option Token
  | _, [] => none
  | depth, t :: rest =>
    if t.isPunct Ascii.openBrace then closingBrace? (depth + 1) rest
    else if t.isPunct Ascii.closeBrace then
      match depth with
      | 0 => some t
      | depth + 1 => closingBrace? depth rest
    else closingBrace? depth rest

/-- The bytes of `s` from offset `start` up to `stop`. -/
def slice (s : Bytes) (start stop : Nat) : Bytes := (s.drop start).take (stop - start)

/-- The constructor of a script. -/
def locate (code : Bytes) : Except ConstructorFault Constructor :=
  match firstHeader? (significant (scan code)) with
  | none => .error .absent
  | some h =>
    let params := slice code h.paramsStart h.paramsStop
    match closingBrace? 0 h.body with
    | some t => .ok ⟨h.name, params, h.brace.start, t.start⟩
    | none => .error (.unclosed h.name params h.brace.start)

end ComponentCompiler.Script
