import ComponentCompiler.Render.Expr

/-!
# Open expressions

While the children of an element are compiled, each expression that siblings continue is a frame
that collects them. Closing a frame makes it a block of the frame around it.
-/

namespace ComponentCompiler.Template

/-- An open expression: the text behind its brace, the line of that brace, and the items so far,
last first. -/
structure Frame where
  head : Bytes
  line : Int
  items : List Render.Expr := []
  deriving Repr, Inhabited

/-- The items of a child list, last first, and the open expressions in it, innermost first. -/
structure Frames where
  base : List Render.Expr := []
  opened : List Frame := []
  deriving Repr, Inhabited

namespace Frames

/-- Adds an item to the innermost open expression, or to the child list itself. An item that prints
as nothing is dropped. -/
def add (f : Frames) (e : Render.Expr) : Frames :=
  if e.isEmpty then f
  else
    match f.opened with
    | [] => { f with base := e :: f.base }
    | top :: rest => { f with opened := { top with items := e :: top.items } :: rest }

/-- Opens an expression. -/
def push (f : Frames) (head : Bytes) (line : Int) : Frames :=
  { f with opened := ⟨head, line, []⟩ :: f.opened }

/-- Closes the innermost open expression, if there is one. -/
def pop (f : Frames) (tail : Bytes) : Frames :=
  match f.opened with
  | [] => f
  | top :: rest => { f with opened := rest }.add (.block top.head top.items.reverse tail)

/-- The number of open expressions. -/
def depth (f : Frames) : Nat := f.opened.length

/-- The innermost open expression. -/
def innermost? (f : Frames) : Option Frame := f.opened.head?

/-- The child list. -/
def items (f : Frames) : List Render.Expr := f.base.reverse

end Frames

end ComponentCompiler.Template
