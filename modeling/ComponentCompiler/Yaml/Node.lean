import ComponentCompiler.Yaml.Token
import ComponentCompiler.Yaml.Value

/-!
# Settings documents

A document is a tree of scalars, sequences and mappings. An alias stands for the node with its
anchor; such nodes are kept in a list beside the tree, because a node may hold an alias of itself.
-/

namespace ComponentCompiler.Yaml

/-- A node of a document. `tag` is the tag that was written, if any, and lines are
counted from one. -/
inductive Node where
  | scalar (tag : Option Bytes) (text : Bytes) (style : Style) (line : Nat)
  | sequence (tag : Option Bytes) (items : List Node) (line : Nat)
  | mapping (tag : Option Bytes) (entries : List (Node × Node)) (line : Nat)
  /-- The alias `name`, which stands for the anchored node of the number `target`; `id` tells apart
  aliases of the same node. -/
  | reference (name : Bytes) (target id : Nat) (line : Nat)
  deriving Repr, Inhabited

/-- A document: its root and its anchored nodes. -/
structure Document where
  root : Node
  anchored : List (Nat × Node) := []
  deriving Repr, Inhabited

namespace Node

/-- The kinds of nodes. -/
inductive Kind where
  | scalar
  | sequence
  | mapping
  | reference
  deriving DecidableEq, Repr, Inhabited

/-- The kind of a node. -/
def kind : Node → Kind
  | scalar .. => .scalar
  | sequence .. => .sequence
  | mapping .. => .mapping
  | reference .. => .reference

/-- The line of a node. -/
def line : Node → Nat
  | scalar _ _ _ line | sequence _ _ line | mapping _ _ line | reference _ _ _ line => line

/-- The text of a scalar or the name of an alias. -/
def text : Node → Bytes
  | scalar _ text _ _ => text
  | reference name .. => name
  | _ => []

/-- The tag of a node: the one written, else that of the kind it has. -/
def tag : Node → Bytes
  | scalar tag text style _ =>
    tag.getD (if style = .plain then (Value.ofText true text).tag else Bytes.lit "!!str")
  | sequence tag .. => tag.getD (Bytes.lit "!!seq")
  | mapping tag .. => tag.getD (Bytes.lit "!!map")
  | reference .. => []

/-- The value of a scalar; none if it is not of the kind that its tag asks for. -/
def value? (tag : Option Bytes) (text : Bytes) (style : Style) : Option Value :=
  match tag with
  | none => some (if style = .plain then Value.ofText true text else .text text)
  | some tag => Value.ofTagged? tag text

/-- Whether a node is the key under which other mappings are merged in. -/
def isMerge (n : Node) : Bool :=
  n.kind == .scalar && n.text == Bytes.lit "<<" && n.tag == Bytes.lit "!!merge"

end Node

/-- The beginning of the tags of standard kinds. -/
def standardTags : Bytes := Bytes.lit "tag:yaml.org,2002:"

/-- The short form of a tag, if it is one of a standard kind. -/
def shortTag (tag : Bytes) : Bytes :=
  if tag.startsWith standardTags then Bytes.lit "!!" ++ tag.drop standardTags.length else tag

end ComponentCompiler.Yaml
