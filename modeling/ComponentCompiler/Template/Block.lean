import ComponentCompiler.Diagnostic
import ComponentCompiler.Markup.Node
import ComponentCompiler.Text.Case.Full
import ComponentCompiler.Text.Case.Simple
import ComponentCompiler.Text.Quoted

/-!
# Template blocks

A template block is named by its first attribute. The block whose key matches the component's name,
case aside, is the main one; the others are sub-components. Every block is normalised to a container
element without attributes.
-/

namespace ComponentCompiler.Template

open Markup (Node)

/-- A named template block, normalised to its container. -/
structure Block where
  key : Bytes
  node : Node
  line : Int
  deriving Repr, Inhabited

/-- The blocks of a component: the main one and the sub-components in document order. -/
structure Blocks where
  main : Block
  subs : List Block
  deriving Repr, Inhabited

/-- The keys of all blocks, the main one first. -/
def Blocks.keys (b : Blocks) : List Bytes := b.main.key :: b.subs.map (·.key)

/-- The key of a block: its first attribute's name, capitalised. -/
def blockKey? (n : Node) : Option Bytes :=
  match n.attrs with
  | [] => none
  | a :: _ => if a.key = [] then none else some (Text.capitalize a.key)

/-- The block of a template element. -/
def Block.ofNode (key container : Bytes) (n : Node) : Block where
  key := key
  node := .element container [] n.children n.line
  line := n.line

/-- The diagnostic for a block without a name. -/
def unnamedBlock (name : Bytes) (n : Node) : Diagnostic where
  fault := .unnamedTemplate
  tag := n.tag
  line := n.line
  detail := Bytes.lit "template block has no identifying attribute"
  hints := [Bytes.lit "name the block, e.g. <template " ++ Text.toLower name ++ Bytes.lit ">"]

/-- The diagnostic for a block whose key was declared before, on line `first`. -/
def duplicateBlock (key : Bytes) (first : Int) (n : Node) : Diagnostic where
  fault := .duplicateTemplate
  block := key
  tag := n.tag
  line := n.line
  detail := Bytes.lit "block " ++ Text.quoted key ++ Bytes.lit " is already declared on line " ++
    Bytes.ofInt first

/-- The diagnostic for a component without a main block. -/
def missingMain (name : Bytes) (found : List Bytes) : Diagnostic where
  fault := .missingMainTemplate
  block := name
  detail := Bytes.lit "no template block is named " ++ Text.quoted name
  hints :=
    [Bytes.lit "add <template " ++ Text.toLower name ++ Bytes.lit "> ... </template>",
      Bytes.lit "blocks found: [" ++ (Bytes.lit ", ").intercalate found ++ Bytes.lit "]"]

/-- The blocks sorted so far. `seen` holds the lower-cased keys with the lines of their blocks. A
later main block takes the place of an earlier one. -/
structure Sorting where
  seen : List (Bytes × Int) := []
  main : Option Block := none
  subs : List Block := []
  deriving Repr, Inhabited

/-- Sorts one template element in. -/
def Sorting.add (name container : Bytes) (s : Sorting) (n : Node) : Except Diagnostic Sorting :=
  match blockKey? n with
  | none => .error (unnamedBlock name n)
  | some key =>
    let folded := Text.toLower key
    match s.seen.lookup folded with
    | some first => .error (duplicateBlock key first n)
    | none =>
      let seen := (folded, n.line) :: s.seen
      let block := Block.ofNode key container n
      if Text.equalFold key name then .ok { s with seen, main := some block }
      else .ok { s with seen, subs := s.subs ++ [block] }

/-- Sorts template elements in, stopping at the first one at fault. -/
def Sorting.addAll (name container : Bytes) : Sorting → List Node → Except Diagnostic Sorting
  | s, [] => .ok s
  | s, n :: ns => (s.add name container n).bind fun s => addAll name container s ns

/-- The blocks of the component `name`. -/
def classify (nodes : List Node) (name container : Bytes) : Except Diagnostic Blocks :=
  (Sorting.addAll name container {} nodes).bind fun s =>
    match s.main with
    | some main => .ok ⟨main, s.subs⟩
    | none => .error (missingMain name (s.subs.map (·.key)))

end ComponentCompiler.Template
