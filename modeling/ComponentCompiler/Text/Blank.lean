import ComponentCompiler.Text.Utf8

/-!
# White space

The characters with the White_Space property, and the removal of such characters from
both ends of a text.
-/

namespace ComponentCompiler.Text

/-- White space. -/
def isBlank (c : Char) : Bool :=
  let n := c.toNat
  (0x09 ≤ n && n ≤ 0x0d) || n == 0x20 || n == 0x85 || n == 0xa0 || n == 0x1680 ||
    (0x2000 ≤ n && n ≤ 0x200a) || n == 0x2028 || n == 0x2029 || n == 0x202f || n == 0x205f ||
    n == 0x3000

/-- A rune that is white space; a stray byte never is. -/
def isBlankRune : Rune → Bool
  | .scalar c => isBlank c
  | .stray _ => false

/-- Runes without the white space at their two ends. -/
def trimRunes (rs : List Rune) : List Rune :=
  ((rs.dropWhile isBlankRune).reverse.dropWhile isBlankRune).reverse

/-- A text without the white space at its two ends. -/
def trim (s : Bytes) : Bytes := Utf8.encode (trimRunes (Utf8.decode s))

end ComponentCompiler.Text
