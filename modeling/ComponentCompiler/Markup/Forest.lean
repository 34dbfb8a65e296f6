import ComponentCompiler.Markup.Lex
import ComponentCompiler.Markup.Node

/-!
# Building markup trees

The tree follows the source: nothing is inserted and nothing is moved. An end tag closes the nearest
open element of its name, together with everything that is open inside it, and is ignored when there
is none. Void elements and self-closing tags never stay open, and what is still open at the end is
closed there.
-/

namespace ComponentCompiler.Markup

/-- The elements that have no children, even when their tag is not self-closing. -/
def voidElements : List Bytes :=
  ["area", "base", "br", "col", "embed", "hr", "img", "input", "keygen", "link", "meta", "param",
    "source", "track", "wbr"].map Bytes.lit

/-- Whether a tag names a void element. -/
def isVoid (tag : Bytes) : Bool := voidElements.contains tag

/-- An element that is not closed yet, with the siblings in front of it, last first. -/
structure OpenElement where
  tag : Bytes
  attrs : List Attribute
  line : Int
  before : List Node
  deriving Repr, Inhabited

/-- A forest under construction: the children so far of the innermost open element, last first, and
the open elements around it, innermost first. -/
structure Builder where
  children : List Node := []
  around : List OpenElement := []
  deriving Repr, Inhabited

namespace Builder

/-- Adds a finished node to the innermost open element. -/
def add (b : Builder) (n : Node) : Builder := { b with children := n :: b.children }

/-- Opens an element. -/
def openElement (b : Builder) (tag : Bytes) (attrs : List Attribute) (line : Int) : Builder :=
  ⟨[], ⟨tag, attrs, line, b.children⟩ :: b.around⟩

/-- The siblings of an open element and itself, closed around `children`, last first. -/
def OpenElement.close (e : OpenElement) (children : List Node) : List Node :=
  .element e.tag e.attrs children.reverse e.line :: e.before

/-- Closes the open elements up to and including the nearest one named `name`. -/
def closeThrough (name : Bytes) : List Node → List OpenElement → Builder
  | children, [] => ⟨children, []⟩
  | children, e :: es =>
    if e.tag = name then ⟨OpenElement.close e children, es⟩
    else closeThrough name (OpenElement.close e children) es

/-- The effect of an end tag. -/
def closeTag (b : Builder) (name : Bytes) : Builder :=
  if b.around.any (·.tag == name) then closeThrough name b.children b.around else b

/-- Closes all open elements. -/
def closeAll : List Node → List OpenElement → List Node
  | children, [] => children
  | children, e :: es => closeAll (OpenElement.close e children) es

/-- The finished forest. -/
def finish (b : Builder) : List Node := (closeAll b.children b.around).reverse

/-- The effect of a token that starts on the given line. -/
def token (b : Builder) (line : Int) : Token → Builder
  | .text data => b.add (.text data line)
  | .startTag tag attrs =>
    if isVoid tag then b.add (.element tag attrs [] line) else b.openElement tag attrs line
  | .selfClosingTag tag attrs => b.add (.element tag attrs [] line)
  | .endTag name => b.closeTag name
  | .comment | .doctype => b

/-- The effect of a list of tokens, the first of which starts on the given line. -/
def lexemes (b : Builder) (line : Int) : List Lexeme → Builder
  | [] => b
  | x :: xs => lexemes (b.token line x.token) (line + x.raw.newlines) xs

end Builder

/-- The forest that a list of tokens describes. Lines are counted from one. -/
def forest (xs : List Lexeme) : List Node := (Builder.lexemes {} 1 xs).finish

/-- The newlines of a list of tokens. -/
def newlinesOf : List Lexeme → Nat
  | [] => 0
  | x :: xs => x.raw.newlines + newlinesOf xs

/-- The line after a list of tokens. -/
def endLine (xs : List Lexeme) : Int := 1 + (newlinesOf xs : Nat)

/-- The top-level nodes of a component source. -/
def parse (src : Bytes) : List Node := forest (lex src)

/-- The blocks of a component source. -/
def parseDocument (src : Bytes) : Document := Document.ofNodes (parse src)

end ComponentCompiler.Markup
