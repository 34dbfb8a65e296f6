import ComponentCompiler.Yaml.Token

/-!
# Tags, anchors and directives

A tag is written as a whole in angle brackets, or as a handle and a suffix, or as a suffix
alone. Percent escapes in it stand for the bytes of one character. Readers give nothing when the
text is malformed.
-/

namespace ComponentCompiler.Yaml

/-- A character of a tag's suffix, escapes apart. -/
def isTagChar (c : Char) : Bool :=
  isWordChar c ||
    [';', '/', '?', ':', '@', '&', '=', '+', '$', '.', ',', '!', '~', '*', '\'', '(', ')',
    '[', ']'].contains c

/-- The number of bytes of a character, by its first byte. -/
def byteCount? (b : Nat) : Option Nat :=
  if b < 0x80 then some 1
  else if b < 0xc0 then none
  else if b < 0xe0 then some 2
  else if b < 0xf0 then some 3
  else if b < 0xf8 then some 4
  else none

/-- The byte of a percent escape. -/
def escapedByte? : List Char → Option Nat
  | '%' :: a :: b :: _ => do return 16 * (← hexDigit? a) + (← hexDigit? b)
  | _ => none

/-- So many escaped bytes that continue a character. -/
def continuation? : Nat → List Char → Option Bytes
  | 0, _ => some []
  | n + 1, cs =>
    match escapedByte? cs with
    | none => none
    | some b =>
      if 0x80 ≤ b ∧ b < 0xc0 then (continuation? n (cs.drop 3)).map (b.toUInt8 :: ·) else none

/-- The bytes of an escaped character. -/
def escapedChar? (cs : List Char) : Option Bytes :=
  match escapedByte? cs with
  | none => none
  | some b =>
    match byteCount? b with
    | none => none
    | some n => (continuation? (n - 1) (cs.drop 3)).map (b.toUInt8 :: ·)

/-- The characters of a tag's suffix, and the cursor after them. -/
def tagChars? : Nat → Bytes → Cursor → Option (Bytes × Cursor)
  | 0, _, _ => none
  | fuel + 1, acc, c =>
    match c.peek with
    | none => some (acc, c)
    | some ch =>
      if ch == '%' then
        match escapedChar? c.rest with
        | none => none
        | some bytes => tagChars? fuel (acc ++ bytes) (c.skipN (3 * bytes.length))
      else if isTagChar ch then tagChars? fuel (acc ++ [ch.toNat.toUInt8]) c.skip
      else some (acc, c)

/-- The suffix of a tag, which may be empty only if `optional`. -/
def tagSuffix? (optional : Bool) (c : Cursor) : Option (Bytes × Cursor) :=
  match tagChars? (c.rest.length + 1) [] c with
  | none => none
  | some (suffix, c') =>
      if !optional && c'.mark.index == c.mark.index then none else some (suffix, c')

/-- A handle, from its exclamation mark on: a word, and an exclamation mark if one follows. -/
def tagHandle (c : Cursor) : Bytes × Cursor :=
  let word := c.rest.tail.takeWhile isWordChar
  let after := c.skipN (word.length + 1)
  let bytes := '!' :: word |>.map fun ch => ch.toNat.toUInt8
  if after.peek == some '!' then (bytes ++ Bytes.lit "!", after.skip) else (bytes, after)

/-- A tag from its exclamation mark on: its handle, its suffix and the cursor after it. A tag in
angle brackets has no handle, and a lone exclamation mark is a suffix. -/
def tag? (c : Cursor) : Option (Bytes × Bytes × Cursor) :=
  let read :=
    if c.peekAt 1 == some '<' then
      match tagSuffix? false (c.skipN 2) with
      | some (suffix, c) => if c.peek == some '>' then some ([], suffix, c.skip) else none
      | none => none
    else
      let (handle, after) := tagHandle c
      if 1 < handle.length && handle.getLast? == some (0x21 : UInt8) then
        (tagSuffix? false after).map fun (suffix, c) => (handle, suffix, c)
      else
        (tagSuffix? true after).map fun (suffix, c) =>
          let suffix := handle.tail ++ suffix
          if suffix.isEmpty then ([], Bytes.lit "!", c) else (Bytes.lit "!", suffix, c)
  read.filter fun (_, _, c) => isSpaceOrEnd c.peek

/-- The characters that may follow an anchor's name. -/
def endsAnchor (c : Option Char) : Bool :=
  isSpaceOrEnd c || c.any fun c => ['?', ':', ',', ']', '}', '%', '@', '\x60'].contains c

/-- The name of an anchor or of an alias, from its indicator on, and the cursor after it. -/
def anchorName? (c : Cursor) : Option (List Char × Cursor) :=
  let name := c.rest.tail.takeWhile isWordChar
  let after := c.skipN (name.length + 1)
  if name.isEmpty || !endsAnchor after.peek then none else some (name, after)

/-! ## Directives -/

/-- A number of at most two digits. -/
def versionNumber? (c : Cursor) : Option (Nat × Cursor) :=
  let digits := c.rest.takeWhile Char.isDigit
  if digits.isEmpty || 2 < digits.length then none
  else some (digits.foldl (fun n d => 10 * n + (d.toNat - 48)) 0, c.skipN digits.length)

/-- The version of a version directive. -/
def versionDirective? (c : Cursor) : Option (TokenKind × Cursor) :=
  match versionNumber? (c.skipWhile isBlank) with
  | none => none
  | some (major, c) =>
    if c.peek == some '.' then
      (versionNumber? c.skip).map fun (minor, c) => (.version major minor, c)
    else none

/-- The handle and what it stands for, of a tag directive. -/
def tagDirective? (c : Cursor) : Option (TokenKind × Cursor) :=
  let c := c.skipWhile isBlank
  if c.peek != some '!' then none
  else
    let (handle, c) := tagHandle c
    if (handle != Bytes.lit "!" && handle.getLast? != some (0x21 : UInt8)) ||
      !c.peek.any isBlank then none
    else
      match tagSuffix? false (c.skipWhile isBlank) with
      | none => none
      | some (scope, c) =>
          if isSpaceOrEnd c.peek then some (.tagDirective handle scope, c) else none

/-- A directive from its percent sign on, with its line passed. -/
def directive? (c : Cursor) : Option (TokenKind × Cursor) :=
  let name := c.rest.tail.takeWhile isWordChar
  let after := c.skipN (name.length + 1)
  if name.isEmpty || !isSpaceOrEnd after.peek then none
  else
    let read :=
      if name == "YAML".toList then versionDirective? after
      else if name == "TAG".toList then tagDirective? after
      else none
    match read with
    | none => none
    | some (kind, c) =>
      let c := c.skipWhile isBlank
      let c := if c.peek == some '#' then c.skipWhile (!isBreak ·) else c
      if isBreakOrEnd c.peek then some (kind, c.skipBreak) else none

end ComponentCompiler.Yaml
