import ComponentCompiler.Text.Utf8
import ComponentCompiler.Text.Printable

/-!
# Names shown in messages

Diagnostics show a name or a value between double quotes, with everything that would not print
escaped: the usual single-letter escapes, two hexadecimal digits for other ASCII controls and stray
bytes, and four or eight for other unprintable characters.
-/

namespace ComponentCompiler.Text

/-- A character inside a quoted name. -/
def quotedChar (c : Char) : Bytes :=
  let n := c.toNat
  if n = 0x22 ∨ n = 0x5c then [Ascii.backslash, n.toUInt8]
  else if isPrintable c then String.utf8EncodeChar c
  else if n = 0x07 then Bytes.lit "\\a"
  else if n = 0x08 then Bytes.lit "\\b"
  else if n = 0x0c then Bytes.lit "\\f"
  else if n = 0x0a then Bytes.lit "\\n"
  else if n = 0x0d then Bytes.lit "\\r"
  else if n = 0x09 then Bytes.lit "\\t"
  else if n = 0x0b then Bytes.lit "\\v"
  else if n < 0x20 ∨ n = 0x7f then Bytes.lit "\\x" ++ Bytes.hex 2 n
  else if n < 0x10000 then Bytes.lit "\\u" ++ Bytes.hex 4 n
  else Bytes.lit "\\U" ++ Bytes.hex 8 n

/-- A rune inside a quoted name. -/
def quotedRune : Rune → Bytes
  | .scalar c => quotedChar c
  | .stray b => Bytes.lit "\\x" ++ Bytes.hex 2 b.toNat

/-- A byte string as a message shows it. -/
def quoted (s : Bytes) : Bytes :=
  [Ascii.quote] ++ (Utf8.decode s).flatMap quotedRune ++ [Ascii.quote]

end ComponentCompiler.Text
