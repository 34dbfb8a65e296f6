import ComponentCompiler.Bytes.Basic

/-!
# Tokens of a behaviour script

The behaviour script is not parsed. Its bytes are split into tokens that tell code from strings,
comments, template literals and regular expressions, which is enough to find the constructor, to
match its braces and to rename hook identifiers without touching text that only looks like code.
-/

namespace ComponentCompiler.Script

/-- The class of a token. -/
inductive Kind where
  | space
  | comment
  | ident
  | number
  | string
  /-- A stretch of a template literal. `opens` says that it ends by opening a substitution. -/
  | template (opens : Bool)
  | regex
  /-- A single byte of punctuation. -/
  | punct
  deriving DecidableEq, Repr, Inhabited

/-- A token: its class, the offset of its first byte, and its bytes. -/
structure Token where
  kind : Kind
  start : Nat
  text : Bytes
  deriving DecidableEq, Repr, Inhabited

namespace Token

/-- The offset just after the token. -/
def stop (t : Token) : Nat := t.start + t.text.length

/-- Whether a token carries code, that is, is neither space nor comment. -/
def isSignificant (t : Token) : Bool := t.kind != .space && t.kind != .comment

/-- Whether a token is the punctuation byte `c`. -/
def isPunct (t : Token) (c : UInt8) : Bool := t.kind == .punct && t.text == [c]

/-- Whether a token is the identifier `name`. -/
def isIdent (t : Token) (name : Bytes) : Bool := t.kind == .ident && t.text == name

end Token

/-- The tokens of a list that carry code. -/
def significant (ts : List Token) : List Token := ts.filter Token.isSignificant

/-- White space between tokens. -/
def isSpaceByte (c : UInt8) : Bool :=
  c == Ascii.space || c == Ascii.tab || c == Ascii.newline || c == Ascii.carriageReturn ||
    c == Ascii.formFeed || c == Ascii.verticalTab

/-- A byte of an identifier or number. Every byte of a non-ASCII character counts. -/
def isIdentByte (c : UInt8) : Bool :=
  c == Ascii.underscore || c == Ascii.dollar || Ascii.isDigit c || Ascii.isLetter c || 0x80 ≤ c

end ComponentCompiler.Script
