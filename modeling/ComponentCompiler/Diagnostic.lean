import ComponentCompiler.Bytes.Basic

/-!
# Diagnostics

A diagnostic says what is wrong with a component, where, and what may help. Its message is one text,
and its context shows the source around the line at fault.
-/

namespace ComponentCompiler

/-- What can be wrong with a component. -/
inductive Fault where
  | unbalancedExpression
  | missingMainTemplate
  | missingConstructorAnchor
  | unnamedTemplate
  | duplicateTemplate
  | unsafeMarkup
  deriving DecidableEq, Repr, Inhabited

/-- The name of a fault. -/
def Fault.name : Fault → Bytes
  | unbalancedExpression => Bytes.lit "unbalanced expression"
  | missingMainTemplate => Bytes.lit "missing main template"
  | missingConstructorAnchor => Bytes.lit "missing constructor anchor"
  | unnamedTemplate => Bytes.lit "unnamed template"
  | duplicateTemplate => Bytes.lit "duplicate template"
  | unsafeMarkup => Bytes.lit "unsafe markup"

/-- A fault with its place. Empty fields are unknown, and so is a line that is not positive. -/
structure Diagnostic where
  fault : Fault
  /-- The source file. -/
  file : Bytes := []
  /-- The key of the template block. -/
  block : Bytes := []
  /-- The tag of the element. -/
  tag : Bytes := []
  line : Int := 0
  detail : Bytes := []
  hints : List Bytes := []
  deriving DecidableEq, Repr, Inhabited

/-- The line of `s`, counted from one, that holds the byte at `offset`. An offset behind the end
belongs to the last line. -/
def lineAt (s : Bytes) (offset : Nat) : Nat := Bytes.newlines (s.take offset) + 1

/-- One numbered line of a context. -/
def contextLine (marked : Bool) (number : Nat) (text : Bytes) : Bytes :=
  Bytes.lit (if marked then "> " else "  ") ++ Bytes.padLeft 4 (Bytes.ofNat number) ++
    Bytes.lit " | " ++ text ++ [Ascii.newline]

/-- The lines of a source that lie at most `size` lines from `line`, numbered, with `line` marked.
The two ends of the window count lines from zero; they are machine words, which wrap around, and are
then clamped to the source. -/
def contextLines (source : Bytes) (line size : Int) : Bytes :=
  let lines := source.splitOn Ascii.newline
  let start := (max (Int64.ofInt (line - size - 1)).toInt 0).toNat
  let stop := (min (Int64.ofInt (line + size)).toInt lines.length).toNat
  Ascii.newline :: (List.range' start (stop - start)).flatMap fun i =>
    contextLine (((i + 1 : Nat) : Int) == line) (i + 1) (lines.getD i [])

namespace Diagnostic

/-- The place of a diagnostic, as its message gives it. -/
def place (d : Diagnostic) : Bytes :=
  let line := Bytes.ofInt d.line
  if d.file ≠ [] then
    Bytes.lit " in " ++ d.file ++ if 0 < d.line then Bytes.lit ":" ++ line else []
  else if 0 < d.line then Bytes.lit " at line " ++ line
  else []

/-- The message of a diagnostic, each hint on a line of its own. -/
def message (d : Diagnostic) : Bytes :=
  Bytes.lit "Compilation Error" ++ d.place ++ Bytes.lit ": " ++ d.fault.name ++
    (if d.detail = [] then [] else Bytes.lit ": " ++ d.detail) ++
    d.hints.flatMap (Bytes.lit "\n  " ++ ·)

/-- The lines around the line at fault, or nothing when that line is unknown. -/
def context (d : Diagnostic) (source : Bytes) : Bytes :=
  if 0 < d.line then contextLines source d.line 2 else []

/-- The diagnostic with its file set, unless it has one. -/
def withFile (d : Diagnostic) (file : Bytes) : Diagnostic :=
  if d.file = [] then { d with file } else d

end Diagnostic

end ComponentCompiler
