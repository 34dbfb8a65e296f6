import ComponentCompiler.Script.Literal
import ComponentCompiler.Text.Letter

/-!
# Identifiers and property keys

An identifier is a letter, `_` or `$` followed by letters, decimal digits, `_` or `$`. A property
key is written bare when it is an identifier and as a string literal otherwise.
-/

namespace ComponentCompiler.Script

/-- A character that may begin an identifier. -/
def isIdentifierStart (c : Char) : Bool :=
  c == '_' || c == '$' || Text.isLetter c

/-- A character that may continue an identifier. -/
def isIdentifierPart (c : Char) : Bool :=
  isIdentifierStart c || Text.isDecimalDigit c

/-- Whether a byte string is an identifier. A stray byte belongs to no identifier, because the
replacement character is no letter. -/
def isIdentifier (s : Bytes) : Bool :=
  match Utf8.chars s with
  | [] => false
  | c :: cs => isIdentifierStart c && cs.all isIdentifierPart

/-- A key of an object literal. -/
def propertyKey (key : Bytes) : Bytes := if isIdentifier key then key else quote key

end ComponentCompiler.Script
