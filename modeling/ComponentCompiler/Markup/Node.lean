import ComponentCompiler.Markup.Token

/-!
# Markup trees

A node is an element or a text, and knows the line of the source on which it starts. A document is a
component source sorted into its top-level blocks.
-/

namespace ComponentCompiler.Markup

/-- A node of a markup tree. Attributes stand in source order. -/
inductive Node where
  | element (tag : Bytes) (attrs : List Attribute) (children : List Node) (line : Int)
  | text (data : Bytes) (line : Int)
  deriving Repr, Inhabited

namespace Node

/-- An element's tag; a text has the empty tag. -/
def tag : Node → Bytes
  | element tag .. => tag
  | text .. => []

/-- An element's attributes. -/
def attrs : Node → List Attribute
  | element _ attrs .. => attrs
  | text .. => []

/-- An element's children. -/
def children : Node → List Node
  | element _ _ children _ => children
  | text .. => []

/-- The line on which a node starts. -/
def line : Node → Int
  | element _ _ _ line => line
  | text _ line => line

/-- Whether a node is an element. -/
def isElement : Node → Bool
  | element .. => true
  | text .. => false

mutual

/-- The data of all texts in a node, one after another. -/
def textContent : Node → Bytes
  | element _ _ children _ => textContents children
  | text data _ => data

/-- The data of all texts in a list of nodes. -/
def textContents : List Node → Bytes
  | [] => []
  | n :: ns => textContent n ++ textContents ns

end

end Node

/-- The raw text of a top-level script element. -/
structure Script where
  text : Bytes
  line : Int
  deriving DecidableEq, Repr, Inhabited

/-- The top-level blocks of a component source, each kind in source order. -/
structure Document where
  templates : List Node := []
  scripts : List Script := []
  /-- Top-level elements that are neither templates nor scripts. -/
  others : List Node := []
  deriving Repr, Inhabited

/-- The document whose top-level nodes are given. Texts between the blocks are dropped. -/
def Document.ofNodes (nodes : List Node) : Document where
  templates := nodes.filter fun n => n.isElement && n.tag == Bytes.lit "template"
  scripts := (nodes.filter fun n => n.isElement && n.tag == Bytes.lit "script").map fun n =>
    ⟨n.textContent, n.line⟩
  others := nodes.filter fun n =>
    n.isElement && n.tag != Bytes.lit "template" && n.tag != Bytes.lit "script"

end ComponentCompiler.Markup
