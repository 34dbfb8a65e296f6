import ComponentCompiler.Text.Utf8

/-!
# Reading settings text

A settings file is UTF-8, or UTF-16 with a byte order mark, and holds no control characters but tabs
and line breaks. A cursor is a place in its characters, with the line and column of that place.
-/

namespace ComponentCompiler.Yaml

/-! ## Characters -/

/-- A character that a settings file may hold. -/
def isAllowed (c : Char) : Bool :=
  let n := c.toNat
  n == 0x09 || n == 0x0a || n == 0x0d || (0x20 ≤ n && n ≤ 0x7e) || n == 0x85 ||
    (0xa0 ≤ n && n ≤ 0xd7ff) || (0xe000 ≤ n && n ≤ 0xfffd) || 0x10000 ≤ n

/-- The characters of UTF-16 code units; a lone surrogate makes none. -/
def ofUnits? : List Nat → Option (List Char)
  | [] => some []
  | [u] => if u.isValidChar then some [Char.ofNat u] else none
  | u :: v :: rest =>
    if 0xd800 ≤ u ∧ u ≤ 0xdbff then
      if 0xdc00 ≤ v ∧ v ≤ 0xdfff then
        (ofUnits? rest).map
          (Char.ofNat (0x10000 + (u - 0xd800) * 0x400 + (v - 0xdc00)) :: ·)
      else none
    else if u.isValidChar then (ofUnits? (v :: rest)).map (Char.ofNat u :: ·)
    else none

/-- UTF-16 code units of pairs of bytes, or nothing when a byte is left over. -/
def unitsOf? (bigEndian : Bool) : Bytes → Option (List Nat)
  | [] => some []
  | [_] => none
  | a :: b :: rest =>
    (unitsOf? bigEndian rest).map
      ((if bigEndian then a.toNat * 256 + b.toNat else b.toNat * 256 + a.toNat) :: ·)

/-- The scalar values of runes, or nothing when one is a stray byte. -/
def scalars? : List Rune → Option (List Char)
  | [] => some []
  | .scalar c :: rest => (scalars? rest).map (c :: ·)
  | .stray _ :: _ => none

/-- The characters of a settings file, in the encoding that its first bytes show. -/
def decode? (s : Bytes) : Option (List Char) :=
  let chars :=
    match s with
    | 0xff :: 0xfe :: rest => (unitsOf? false rest).bind ofUnits?
    | 0xfe :: 0xff :: rest => (unitsOf? true rest).bind ofUnits?
    | 0xef :: 0xbb :: 0xbf :: rest => scalars? (Utf8.decode rest)
    | _ => scalars? (Utf8.decode s)
  chars.filter (·.all isAllowed)

/-- A space or a tab. -/
def isBlank (c : Char) : Bool := c == ' ' || c == '\t'

/-- A line break. -/
def isBreak (c : Char) : Bool :=
  c == '\n' || c == '\r' || c.toNat == 0x85 || c.toNat == 0x2028 || c.toNat == 0x2029

/-- Whether there is a line break, or no character at all. -/
def isBreakOrEnd (c : Option Char) : Bool := c.all isBreak

/-- Whether there is white space, or no character at all. -/
def isSpaceOrEnd (c : Option Char) : Bool := c.all fun c => isBlank c || isBreak c

/-- A character of an anchor, a tag handle or a directive's name. -/
def isWordChar (c : Char) : Bool := c.isAlphanum || c == '_' || c == '-'

/-- The value of a hexadecimal digit. -/
def hexDigit? (c : Char) : Option Nat :=
  if c.toNat < 0x80 then Ascii.hexValue? c.toNat.toUInt8 else none

/-! ## Places -/

/-- A place in a text: the number of characters before it, and its line and column,
counted from zero. -/
structure Mark where
  index : Nat := 0
  line : Nat := 0
  column : Nat := 0
  deriving DecidableEq, Repr, Inhabited

/-- A place with the characters that follow it. -/
structure Cursor where
  rest : List Char
  mark : Mark := {}
  /-- The number of line breaks since the last character that is not blank. -/
  newlines : Nat := 0
  deriving Repr, Inhabited

namespace Cursor

/-- The next character. -/
def peek (c : Cursor) : Option Char := c.rest.head?

/-- The character after `n` others. -/
def peekAt (c : Cursor) (n : Nat) : Option Char := c.rest[n]?

/-- Passes one character that is no line break. -/
def skip (c : Cursor) : Cursor :=
  match c.rest with
  | [] => c
  | ch :: rest =>
    { rest
      mark := { c.mark with index := c.mark.index + 1, column := c.mark.column + 1 }
      newlines := if isBlank ch then c.newlines else 0 }

/-- Passes `n` characters that are no line breaks. -/
def skipN : Nat → Cursor → Cursor
  | 0, c => c
  | n + 1, c => skipN n c.skip

/-- Passes the characters of a test, none of which is a line break. -/
def skipWhile (p : Char → Bool) (c : Cursor) : Cursor := c.skipN (c.rest.takeWhile p).length

/-- Passes a line break, if there is one, and gives the characters that it stands for. A carriage
return and a newline are one break. -/
def takeBreak (c : Cursor) : List Char × Cursor :=
  match c.rest with
  | [] => ([], c)
  | ch :: rest =>
    if !isBreak ch then ([], c)
    else
      let pair := ch == '\r' && rest.head? == some '\n'
      (if ch.toNat == 0x2028 || ch.toNat == 0x2029 then [ch] else ['\n'],
        { rest := if pair then rest.tail else rest
          mark := ⟨c.mark.index + (if pair then 2 else 1), c.mark.line + 1, 0⟩
          newlines := c.newlines + 1 })

/-- Passes a line break, if there is one. -/
def skipBreak (c : Cursor) : Cursor := c.takeBreak.2

/-- Whether a document indicator, three times the character `ch`, stands at the
beginning of a line. -/
def atIndicator (c : Cursor) (ch : Char) : Bool :=
  c.mark.column == 0 && c.peek == some ch && c.peekAt 1 == some ch && c.peekAt 2 == some ch &&
    isSpaceOrEnd (c.peekAt 3)

/-- Whether a document starts or ends here. -/
def atDocument (c : Cursor) : Bool := c.atIndicator '-' || c.atIndicator '.'

end Cursor

end ComponentCompiler.Yaml
