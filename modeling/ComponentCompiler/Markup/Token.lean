import ComponentCompiler.Bytes.Basic

/-!
# Markup tokens

The tokens of a component source, each kept together with the bytes that it was read from. Names of
tags and attributes are in lower case, and character references are already replaced.
-/

namespace ComponentCompiler.Markup

/-- An attribute of a tag. -/
structure Attribute where
  key : Bytes
  value : Bytes
  deriving DecidableEq, Repr, Inhabited

/-- A markup token. -/
inductive Token where
  | text (data : Bytes)
  | startTag (name : Bytes) (attrs : List Attribute)
  | selfClosingTag (name : Bytes) (attrs : List Attribute)
  | endTag (name : Bytes)
  | comment
  | doctype
  deriving DecidableEq, Repr, Inhabited

/-- A token with the bytes of the source that it was read from. -/
structure Lexeme where
  raw : Bytes
  token : Token
  deriving DecidableEq, Repr, Inhabited

end ComponentCompiler.Markup
