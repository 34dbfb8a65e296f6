import ComponentCompiler.Markup.Token
import ComponentCompiler.Render.Expr
import ComponentCompiler.Template.Text
import ComponentCompiler.Text.Case.Simple

/-!
# Attributes as properties

An attribute of an element becomes an entry of its properties object: event handlers are code, all
other values are string literals. An attribute of a sub-component reference becomes a property: a
value in braces is code, any other a string literal.
-/

namespace ComponentCompiler.Template

/-- Whether an attribute holds an event handler. -/
def isEventKey (key : Bytes) : Bool := (Text.toLower key).startsWith (Bytes.lit "on")

/-- The code of an element's attribute value. -/
def attributeValue (a : Markup.Attribute) : Bytes :=
  if isEventKey a.key then
    let code := Text.trim a.value
    if code = [] then Bytes.lit "null" else code
  else Script.quoteText a.value

/-- The code of a sub-component's property value. -/
def factoryValue (a : Markup.Attribute) : Bytes :=
  match unwrapBraces? (Text.trim a.value) with
  | some code => if code = [] then Bytes.lit "undefined" else code
  | none => Script.quote a.value

/-- The properties of an element. -/
def attributeProps (attrs : List Markup.Attribute) : List Render.Property :=
  attrs.map fun a => ⟨a.key, attributeValue a⟩

/-- The properties of a sub-component reference. -/
def factoryProps (attrs : List Markup.Attribute) : List Render.Property :=
  attrs.map fun a => ⟨a.key, factoryValue a⟩

end ComponentCompiler.Template
