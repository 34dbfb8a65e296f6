import ComponentCompiler.Text.Utf8

/-!
# String literals of the generated code

`quote` writes a text as a double-quoted literal. Only the quote, the backslash, control characters
and the two Unicode line separators are escaped; a stray byte becomes the replacement character.
`quoteText` keeps a text that already stands between matching quotes.
-/

namespace ComponentCompiler.Script

/-- A character inside a double-quoted literal. -/
def escapeChar (c : Char) : Bytes :=
  let n := c.toNat
  if n = 0x22 then Bytes.lit "\\\""
  else if n = 0x5c then Bytes.lit "\\\\"
  else if n = 0x0a then Bytes.lit "\\n"
  else if n = 0x0d then Bytes.lit "\\r"
  else if n = 0x09 then Bytes.lit "\\t"
  else if n = 0x08 then Bytes.lit "\\b"
  else if n = 0x0c then Bytes.lit "\\f"
  else if n = 0x0b then Bytes.lit "\\v"
  else if n < 0x20 ∨ n = 0x7f ∨ n = 0x2028 ∨ n = 0x2029 then Bytes.lit "\\u" ++ Bytes.hex 4 n
  else String.utf8EncodeChar c

/-- A text as a double-quoted literal. -/
def quote (s : Bytes) : Bytes :=
  [Ascii.quote] ++ (Utf8.chars s).flatMap escapeChar ++ [Ascii.quote]

/-- Whether a text stands between one matching pair of double, single or back quotes. -/
def isQuoted (s : Bytes) : Bool :=
  match s with
  | q :: rest =>
    (q == Ascii.quote || q == Ascii.apostrophe || q == Ascii.backquote) &&
      rest.getLast? == some q
  | [] => false

/-- A text as a literal, verbatim when it is already quoted. -/
def quoteText (s : Bytes) : Bytes := if isQuoted s then s else quote s

end ComponentCompiler.Script
