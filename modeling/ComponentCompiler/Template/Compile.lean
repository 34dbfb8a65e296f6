import ComponentCompiler.Diagnostic
import ComponentCompiler.Markup.Node
import ComponentCompiler.Template.Attribute
import ComponentCompiler.Template.Frames
import ComponentCompiler.Template.Registry

/-!
# Compiling templates

An element becomes a constructor call, and a child whose tag is registered becomes a call of that
sub-component's factory. The children of such a reference are ignored. Compiling also lists the
references that it met, up to the point of failure if it fails.
-/

namespace ComponentCompiler.Template

open Markup (Node)

/-- A reference to a sub-component, and whether it has content that is ignored. -/
structure Reference where
  key : Bytes
  tag : Bytes
  line : Int
  hasContent : Bool
  deriving DecidableEq, Repr, Inhabited

/-- The result of compiling, with the references met on the way. -/
structure Outcome (α : Type) where
  references : List Reference
  result : Except Diagnostic α

namespace Outcome

/-- A result without references. -/
def pure {α : Type} (a : α) : Outcome α := ⟨[], .ok a⟩

/-- Goes on with a result, keeping the references met before. -/
def bind {α β : Type} (x : Outcome α) (f : α → Outcome β) : Outcome β :=
  match x.result with
  | .ok a => let y := f a; ⟨x.references ++ y.references, y.result⟩
  | .error d => ⟨x.references, .error d⟩

end Outcome

/-- Whether an element has children other than blank texts. -/
def hasContent (n : Node) : Bool :=
  n.children.any fun
    | .element .. => true
    | .text data _ => textKind data false != .blank

/-- Adds a text child. -/
def addText (frames : Frames) (data : Bytes) (line : Int) : Frames :=
  let t := Text.trim data
  match textKind t (0 < frames.depth) with
  | .blank => frames
  | .expression => frames.add (.raw (inside t))
  | .opening => frames.push (Text.trim t.tail) (line + (leading data).newlines)
  | .closing => frames.pop (Text.trim t.dropLast)
  | .plain => frames.add (.literal (Script.quoteText t))

/-- The diagnostic for an expression that its element leaves open. -/
def unclosed (block tag : Bytes) (frame : Frame) : Diagnostic where
  fault := .unbalancedExpression
  block := block
  tag := tag
  line := frame.line
  detail :=
    Bytes.lit "expression " ++ [Ascii.openBrace] ++ frame.head ++
      Bytes.lit " is never closed inside <" ++
    tag ++ Bytes.lit ">"
  hints := [Bytes.lit "close the expression with a text line ending in '" ++ [Ascii.closeBrace] ++
    Bytes.lit "' before the element ends"]

/-- The call of an element whose children are compiled. -/
def finishElement (block tag : Bytes) (attrs : List Markup.Attribute) (frames : Frames) :
    Except Diagnostic Render.Expr :=
  match frames.innermost? with
  | some frame => .error (unclosed block tag frame)
  | none => .ok (.call tag (attributeProps attrs) frames.items)

mutual

/-- The constructor call of an element. -/
def compileElement (registry : Registry) (block : Bytes) : Node → Outcome Render.Expr
  | .text .. => .pure (.call [] [] [])
  | .element tag attrs children _ =>
    (compileChildren registry block children {}).bind fun frames =>
      ⟨[], finishElement block tag attrs frames⟩

/-- The child list of an element, added to the given frames. -/
def compileChildren (registry : Registry) (block : Bytes) : List Node → Frames → Outcome Frames
  | [], frames => .pure frames
  | .text data line :: rest, frames =>
    compileChildren registry block rest (addText frames data line)
  | .element tag attrs children line :: rest, frames =>
    match registry.lookup? tag with
    | some key =>
      Outcome.bind ⟨[⟨key, tag, line, hasContent (.element tag attrs children line)⟩], .ok ()⟩
        fun _ => compileChildren registry block rest
          (frames.add (.factory key (factoryProps attrs)))
    | none =>
      (compileElement registry block (.element tag attrs children line)).bind fun call =>
        compileChildren registry block rest (frames.add call)

end

/-- The code of an element at an indentation depth. -/
def compile (registry : Registry) (block : Bytes) (n : Node) (depth : Nat) : Outcome Bytes :=
  (compileElement registry block n).bind fun call => .pure (call.print depth)

end ComponentCompiler.Template
