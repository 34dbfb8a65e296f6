import ComponentCompiler.Diagnostic
import ComponentCompiler.Markup.Node
import ComponentCompiler.Template.Text
import ComponentCompiler.Text.Case.Simple
import ComponentCompiler.Text.Quoted

/-!
# Unsafe markup

When sanitizing, a template may hold no element that loads or runs code outside the
component's control, and no attribute that holds a script URL. Event handlers are the
component's own and are allowed.
-/

namespace ComponentCompiler.Template

open Markup (Node Attribute)

/-- The elements that a sanitized template may not hold. -/
def unsafeElements : List Bytes :=
  ["script", "iframe", "object", "embed", "link", "style"].map Bytes.lit

/-- The attributes that hold URLs. -/
def urlKeys : List Bytes :=
  ["href", "src", "action", "formaction", "xlink:href"].map Bytes.lit

/-- Whether a value is a script URL, case and the white space and control characters that browsers
strip aside. -/
def isScriptUrl (value : Bytes) : Bool :=
  let kept := (Utf8.chars value).filter fun c => 0x20 < c.toNat
  (Text.toLower (Utf8.encodeChars kept)).startsWith (Bytes.lit "javascript:")

/-- Whether an attribute holds a script URL. A value in braces is code and not checked. -/
def isUnsafeAttribute (a : Attribute) : Bool :=
  urlKeys.contains a.key && !isBraced (Text.trim a.value) && isScriptUrl a.value

/-- The diagnostic for an element that is not allowed. -/
def unsafeElement (block tag : Bytes) (line : Int) : Diagnostic where
  fault := .unsafeMarkup
  block := block
  tag := tag
  line := line
  detail := Bytes.lit "<" ++ tag ++ Bytes.lit "> is not allowed in templates"
  hints := [Bytes.lit "move behavior into the <script> block"]

/-- The diagnostic for an attribute that holds a script URL. -/
def unsafeAttribute (block tag : Bytes) (line : Int) (a : Attribute) : Diagnostic where
  fault := .unsafeMarkup
  block := block
  tag := tag
  line := line
  detail := a.key ++ Bytes.lit "=" ++ Text.quoted a.value ++ Bytes.lit " uses a javascript: URL"
  hints := [Bytes.lit "use an event attribute such as onclick on <" ++ tag ++ Bytes.lit "> instead"]

mutual

/-- The first unsafe markup in a node, in document order. -/
def firstUnsafe? (block : Bytes) : Node → Option Diagnostic
  | .text .. => none
  | .element tag attrs children line =>
    if unsafeElements.contains tag then some (unsafeElement block tag line)
    else
      match attrs.find? isUnsafeAttribute with
      | some a => some (unsafeAttribute block tag line a)
      | none => firstUnsafeIn? block children

/-- The first unsafe markup in a list of nodes. -/
def firstUnsafeIn? (block : Bytes) : List Node → Option Diagnostic
  | [] => none
  | n :: ns =>
    match firstUnsafe? block n with
    | some d => some d
    | none => firstUnsafeIn? block ns

end

/-- The first unsafe markup below a block's container. -/
def validate (container : Node) (block : Bytes) : Option Diagnostic :=
  firstUnsafeIn? block container.children

end ComponentCompiler.Template
