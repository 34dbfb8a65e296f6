import ComponentCompiler.Script.Identifier
import ComponentCompiler.Text.Blank

/-!
# Render expressions

A compiled template is a tree of constructor calls. `Expr.print` writes it as code: one child a
line, each nesting level one indentation unit deeper. A block is an embedded expression that wraps
sibling items, such as the head `items.map(item =>`, one item and the tail `)`.
-/

namespace ComponentCompiler.Render

/-- One entry of a properties object. The value is code and written as it is. -/
structure Property where
  key : Bytes
  value : Bytes
  deriving DecidableEq, Repr, Inhabited

/-- A render expression. -/
inductive Expr where
  /-- A missing item: it prints as nothing, and its separators remain. -/
  | hole
  /-- An element constructor call. -/
  | call (tag : Bytes) (props : List Property) (children : List Expr)
  /-- A call of a sub-component's factory. -/
  | factory (name : Bytes) (props : List Property)
  /-- Embedded code. -/
  | raw (code : Bytes)
  /-- A string literal, already quoted. -/
  | literal (quoted : Bytes)
  /-- An embedded expression around sibling items. -/
  | block (head : Bytes) (items : List Expr) (tail : Bytes)
  deriving Repr, Inhabited

/-- The indentation unit of printed expressions. -/
def indent : Bytes := Bytes.lit "    "

/-- The name of the element constructor in generated code. -/
def constructorName : Bytes := Bytes.lit "h"

/-- A line break followed by `depth` indentation units. -/
def lineBreak (depth : Nat) : Bytes := Ascii.newline :: Bytes.times depth indent

/-- One entry of a properties object. -/
def Property.print (p : Property) : Bytes :=
  Script.propertyKey p.key ++ Bytes.lit ": " ++ p.value

/-- A properties object. -/
def printProps (props : List Property) : Bytes :=
  [Ascii.openBrace] ++ (Bytes.lit ", ").intercalate (props.map Property.print) ++
    [Ascii.closeBrace]

/-- A children list whose items are already printed one level below `depth`. -/
def printChildren (depth : Nat) (items : List Bytes) : Bytes :=
  match items with
  | [] => Bytes.lit "[]"
  | _ => [Ascii.openBracket] ++
      [Ascii.comma].intercalate (items.map (lineBreak (depth + 1) ++ ·)) ++
      lineBreak depth ++ [Ascii.closeBracket]

/-- Every item but the last followed by a comma. -/
def commaEnded : List Bytes → List Bytes
  | [] => []
  | [item] => [item]
  | item :: items => (item ++ [Ascii.comma]) :: commaEnded items

/-- Lines of text, each with its depth; the first one stands where the text starts. -/
def printLines : List (Nat × Bytes) → Bytes
  | [] => []
  | (_, first) :: lines => first ++ lines.flatMap fun l => lineBreak l.1 ++ l.2

/-- The depth at which a block's items stand: one below a head, if there is one. -/
def itemDepth (depth : Nat) (head : Bytes) : Nat := if head = [] then depth else depth + 1

/-- A block whose items are already printed at their depth. -/
def printBlock (depth : Nat) (head : Bytes) (items : List Bytes) (tail : Bytes) : Bytes :=
  printLines
    ((if head = [] then [] else [(depth, head)]) ++
      (commaEnded items).map (fun item => (itemDepth depth head, item)) ++
      (if tail = [] then [] else [(depth, tail)]))

namespace Expr

mutual

/-- An expression as code. `depth` is the indentation level of the line on which it starts. -/
def print : Expr → Nat → Bytes
  | hole, _ => []
  | call tag props children, depth =>
    constructorName ++ Bytes.lit "(" ++ Script.quote tag ++ Bytes.lit ", " ++ printProps props ++
      Bytes.lit ", " ++ printChildren depth (printAll children (depth + 1)) ++ Bytes.lit ")"
  | factory name props, _ => name ++ Bytes.lit "(" ++ printProps props ++ Bytes.lit ")"
  | raw code, _ => code
  | literal quoted, _ => quoted
  | block head items tail, depth =>
    printBlock depth head (printAll items (itemDepth depth head)) tail

/-- Each expression of a list as code. -/
def printAll : List Expr → Nat → List Bytes
  | [], _ => []
  | e :: es, depth => print e depth :: printAll es depth

end

mutual

/-- Whether an expression prints as nothing but white space. -/
def isEmpty : Expr → Bool
  | hole => true
  | raw code => Text.trim code == []
  | block head items tail => head == [] && tail == [] && allEmpty items
  | call .. | factory .. | literal .. => false

/-- Whether all expressions of a list are empty. -/
def allEmpty : List Expr → Bool
  | [] => true
  | e :: es => isEmpty e && allEmpty es

end

end Expr

end ComponentCompiler.Render
