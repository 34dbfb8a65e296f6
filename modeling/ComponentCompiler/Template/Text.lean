import ComponentCompiler.Script.Literal
import ComponentCompiler.Text.Blank

/-!
# Texts inside templates

A text between braces is an embedded expression. A text that only starts with a brace opens an
expression which later siblings continue, and a text that only ends with a brace closes the
innermost open one.
-/

namespace ComponentCompiler.Template

/-- The roles of a text among the children of an element. -/
inductive TextKind where
  | blank
  /-- A whole embedded expression. -/
  | expression
  /-- The beginning of an expression that siblings continue. -/
  | opening
  /-- The end of the innermost open expression. -/
  | closing
  | plain
  deriving DecidableEq, Repr, Inhabited

/-- Whether a byte string starts and ends with a brace of its own. -/
def isBraced (s : Bytes) : Bool :=
  s.head? == some Ascii.openBrace && s.tail.getLast? == some Ascii.closeBrace

/-- The inside of a braced byte string, without white space at its ends. -/
def inside (s : Bytes) : Bytes := Text.trim s.tail.dropLast

/-- The role of a text, where `isOpen` says whether an expression is open. -/
def textKind (text : Bytes) (isOpen : Bool) : TextKind :=
  let t := Text.trim text
  if t = [] then .blank
  else if isBraced t then .expression
  else if t.head? = some Ascii.openBrace then .opening
  else if t.getLast? = some Ascii.closeBrace ∧ isOpen then .closing
  else .plain

/-- The inside of a value that stands in braces. -/
def unwrapBraces? (s : Bytes) : Option Bytes := if isBraced s then some (inside s) else none

/-- The white space in front of an opening text in which its line breaks are counted. -/
def leading (data : Bytes) : Bytes :=
  data.takeWhile fun c =>
    c == Ascii.space || c == Ascii.tab || c == Ascii.carriageReturn || c == Ascii.newline

end ComponentCompiler.Template
