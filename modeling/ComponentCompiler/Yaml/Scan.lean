import ComponentCompiler.Yaml.Scalar
import ComponentCompiler.Yaml.Tag

/-!
# Splitting settings text into tokens

Block collections are delimited by indentation, so their start and end tokens are put in as columns
rise and fall. A key is recognised only when the colon after it is reached: a token that may start a
key is remembered, and the key token is put in front of it later. A remembered key must end on its
line and within 1024 characters.
-/

namespace ComponentCompiler.Yaml

/-- A token that may turn out to start a key. -/
structure PossibleKey where
  /-- The number of tokens in front of it. -/
  position : Nat
  mark : Mark
  /-- Whether the text is malformed unless it is a key. -/
  required : Bool
  deriving DecidableEq, Repr, Inhabited

/-- The state of a scan. -/
structure Scanner where
  cursor : Cursor
  tokens : List Token := []
  /-- The indentation of the innermost block collection, `-1` outside. -/
  indent : Int := -1
  indents : List Int := []
  /-- Whether a key may start here. -/
  keyAllowed : Bool := true
  /-- The possible key of the innermost flow collection. -/
  key : Option PossibleKey := none
  /-- The possible keys around it, one for each flow collection. -/
  outerKeys : List (Option PossibleKey) := []
  deriving Repr, Inhabited

namespace Scanner

/-- Whether the scan is inside a flow collection. -/
def inFlow (s : Scanner) : Bool := !s.outerKeys.isEmpty

/-- Appends a token. -/
def push (s : Scanner) (kind : TokenKind) (start stop : Mark) : Scanner :=
  { s with tokens := s.tokens ++ [⟨kind, start, stop⟩] }

/-! ## Between tokens -/

/-- Passes further comment lines that follow the end of a comment, with the blank lines
between them. -/
def skipCommentLines : Nat → Cursor → Cursor
  | 0, c => c
  | fuel + 1, c =>
    let gap := c.rest.takeWhile fun ch => isBlank ch || ch == '\n' || ch == '\r'
    if gap.length < 512 && (c.peekAt gap.length) == some '#' then
      let c := gap.foldl (fun c _ => if c.peek.any isBreak then c.skipBreak else c.skip) c
      skipCommentLines fuel (c.skipWhile (!isBreak ·))
    else c

/-- Passes white space and comments up to the next token. A tab may not stand where a
key may start. -/
def skipToToken : Nat → Scanner → Scanner
  | 0, s => s
  | fuel + 1, s =>
    let c :=
  if s.cursor.mark.column == 0 && s.cursor.peek.any (·.toNat == 0xfeff) then s.cursor.skip
      else s.cursor
    let c := c.skipWhile fun ch => ch == ' ' || ((s.inFlow || !s.keyAllowed) && ch == '\t')
    let c := if c.peek == some '#' then
        skipCommentLines c.rest.length (c.skipWhile (!isBreak ·))
      else c
    if c.peek.any isBreak then
      skipToToken fuel { s with cursor := c.skipBreak, keyAllowed := s.keyAllowed || !s.inFlow }
    else { s with cursor := c }

/-- Passes a comment on the line of the token just read. -/
def skipLineComment (s : Scanner) : Scanner :=
  let c := s.cursor
  let blanks := c.rest.takeWhile isBlank
  if c.newlines == 0 && blanks.length < 512 && c.peekAt blanks.length == some '#' then
    { s with cursor := (c.skipN blanks.length).skipWhile (!isBreak ·) }
  else s

/-! ## Indentation and keys -/

/-- Ends the block collections that are indented further than `column`. -/
def unroll (column : Int) : List Int → Scanner → Scanner
  | [], s => s
  | outer :: indents, s =>
    if s.inFlow || s.indent ≤ column then s
    else
      unroll column indents
        ({ s with indent := outer, indents := indents }.push .blockEnd s.cursor.mark s.cursor.mark)

/-- Starts a block collection at `column` in front of the token at `position`, if the column is
further than the indentation. -/
def roll (s : Scanner) (position : Nat) (kind : TokenKind) (mark : Mark) : Scanner :=
  if s.inFlow || (mark.column : Int) ≤ s.indent then s
  else
    { s with
      indent := mark.column
      indents := s.indent :: s.indents
      tokens := s.tokens.insertIdx position ⟨kind, mark, mark⟩ }

/-- Gives up the possible key; none if it was required. -/
def dropKey (s : Scanner) : Option Scanner :=
  match s.key with
  | some k => if k.required then none else some { s with key := none }
  | none => some s

/-- Remembers that the next token may start a key. -/
def saveKey (s : Scanner) : Option Scanner :=
  if s.keyAllowed then
    s.dropKey.map fun s =>
      { s with
        key := some ⟨s.tokens.length, s.cursor.mark,
          !s.inFlow && s.indent == (s.cursor.mark.column : Int)⟩ }
  else some s

/-- Whether a possible key can still end at a place. -/
def possibleAt (k : PossibleKey) (m : Mark) : Bool :=
  m.line ≤ k.mark.line && m.index ≤ k.mark.index + 1024

/-! ## Tokens -/

/-- Reads `n` characters as a token. -/
def take (s : Scanner) (kind : TokenKind) (n : Nat) : Scanner :=
  let c := s.cursor.skipN n
  { s with cursor := c }.push kind s.cursor.mark c.mark

/-- Leaves all block collections, in front of a directive, a document or the end. -/
def leaveBlocks (s : Scanner) : Option Scanner :=
  ((s.unroll (-1) s.indents).dropKey).map fun s => { s with keyAllowed := false }

/-- The end of the text, on a line of its own. -/
def streamEnd (s : Scanner) : Option Scanner :=
  let m := s.cursor.mark
  let m := if m.column == 0 then m else { m with column := 0, line := m.line + 1 }
  (leaveBlocks { s with cursor := { s.cursor with mark := m } }).map fun s => s.push .streamEnd m m

/-- A directive. -/
def directive (s : Scanner) : Option Scanner := do
  let s ← s.leaveBlocks
  let (kind, c) ← directive? s.cursor
  return { s with cursor := c }.push kind s.cursor.mark c.mark

/-- A bracket that starts a flow collection. -/
def flowStart (s : Scanner) (kind : TokenKind) : Option Scanner :=
  s.saveKey.map fun s =>
    { s with outerKeys := s.key :: s.outerKeys, key := none, keyAllowed := true }.take kind 1

/-- A bracket that ends a flow collection. -/
def flowEnd (s : Scanner) (kind : TokenKind) : Option Scanner :=
  s.dropKey.map fun s =>
    let s :=
      match s.outerKeys with
      | k :: ks => { s with key := k, outerKeys := ks }
      | [] => s
    { s with keyAllowed := false }.take kind 1

/-- A comma between the entries of a flow collection. -/
def flowEntry (s : Scanner) : Option Scanner :=
  s.dropKey.map fun s => { s with keyAllowed := true }.take .flowEntry 1

/-- The dash of a sequence entry. -/
def blockEntry (s : Scanner) : Option Scanner :=
  if !s.inFlow && !s.keyAllowed then none
  else
    (s.roll s.tokens.length .blockSequenceStart s.cursor.mark).dropKey.map fun s =>
      { s with keyAllowed := true }.take .blockEntry 1

/-- The question mark of a key. -/
def complexKey (s : Scanner) : Option Scanner :=
  if !s.inFlow && !s.keyAllowed then none
  else
    (s.roll s.tokens.length .blockMappingStart s.cursor.mark).dropKey.map fun s =>
      { s with keyAllowed := !s.inFlow }.take .key 1

/-- The colon of a value. If a possible key is in front of it, this is where its key
token is put in. -/
def value (s : Scanner) : Option Scanner :=
  match s.key with
  | some k =>
    if possibleAt k s.cursor.mark then
      let s := { s with tokens := s.tokens.insertIdx k.position ⟨.key, k.mark, k.mark⟩ }
      some ({ s.roll k.position .blockMappingStart k.mark with key := none, keyAllowed :=
        false }.take
        .value 1)
    else if k.required then none
    else complexValue { s with key := none }
  | none => complexValue s
where
  /-- The colon of a value whose key is not on the same line. -/
  complexValue (s : Scanner) : Option Scanner :=
    if !s.inFlow && !s.keyAllowed then none
    else
      let s := s.roll s.tokens.length .blockMappingStart s.cursor.mark
      some ({ s with keyAllowed := !s.inFlow }.take .value 1)

/-- An anchor or an alias. -/
def anchor (s : Scanner) (kind : List Char → TokenKind) : Option Scanner := do
  let s ← s.saveKey
  let (name, c) ← anchorName? s.cursor
  return { s with keyAllowed := false, cursor := c }.push (kind name) s.cursor.mark c.mark

/-- A tag. -/
def tag (s : Scanner) : Option Scanner := do
  let s ← s.saveKey
  let (handle, suffix, c) ← tag? s.cursor
  return { s with keyAllowed := false, cursor := c }.push (.tag handle suffix) s.cursor.mark c.mark

/-- A scalar that was read. -/
def scalar (s : Scanner) (style : Style) (r : Read) (keyAllowed : Bool) : Scanner :=
  { s with keyAllowed, cursor := r.cursor }.push (.scalar r.text style) s.cursor.mark r.stop

/-- A block scalar. -/
def blockScalar (s : Scanner) (style : Style) : Option Scanner := do
  let s ← s.dropKey
  let r ← block? (style == .literal) s.indent s.cursor.skip
  return s.scalar style r true

/-- A quoted scalar. -/
def quotedScalar (s : Scanner) (style : Style) : Option Scanner := do
  let s ← s.saveKey
  let r ← quoted? (style == .doubleQuoted) (s.cursor.rest.length + 1) [] s.cursor.skip
  return s.scalar style r false

/-- A plain scalar. -/
def plainScalar (s : Scanner) : Option Scanner := do
  let s ← s.saveKey
  let r ← plain? s.inFlow (s.indent + 1) (s.cursor.rest.length + 1) [] s.cursor.mark {} s.cursor
  return s.scalar .plain r r.broken

/-- The characters that no plain scalar starts with. -/
def isIndicator (c : Char) : Bool :=
  ['-', '?', ':', ',', '[', ']', '{', '}', '#', '&', '*', '!', '|', '>', '\'', '"', '%', '@',
    '\x60'].contains c

/-- Whether a plain scalar starts here. -/
def startsPlain (s : Scanner) (c : Char) : Bool :=
  let next := s.cursor.peekAt 1
  !(isBlank c || isBreak c || isIndicator c) || (c == '-' && !next.any isBlank) ||
    (!s.inFlow && (c == '?' || c == ':') && !isSpaceOrEnd next)

/-- The token that starts with a character. -/
def token (s : Scanner) (c : Char) : Option Scanner :=
  let spaced := isSpaceOrEnd (s.cursor.peekAt 1)
  match c with
  | '[' => s.flowStart .flowSequenceStart
  | '{' => s.flowStart .flowMappingStart
  | ']' => s.flowEnd .flowSequenceEnd
  | '}' => s.flowEnd .flowMappingEnd
  | ',' => s.flowEntry
  | '*' => s.anchor .reference
  | '&' => s.anchor .anchor
  | '!' => s.tag
  | '\'' => s.quotedScalar .singleQuoted
  | '"' => s.quotedScalar .doubleQuoted
  | _ =>
    if c == '-' && spaced then s.blockEntry
    else if c == '?' && (s.inFlow || spaced) then s.complexKey
    else if c == ':' && (s.inFlow || spaced) then s.value
    else if c == '|' && !s.inFlow then s.blockScalar .literal
    else if c == '>' && !s.inFlow then s.blockScalar .folded
    else if s.startsPlain c then s.plainScalar
    else none

/-- Reads the next token, with the tokens that it brings along; none if the text is
malformed there. -/
def step (s : Scanner) : Option Scanner :=
  let s := s.skipToToken (s.cursor.rest.length + 1)
  let s := s.unroll s.cursor.mark.column s.indents
  match s.cursor.peek with
  | none => s.streamEnd
  | some c =>
    if s.cursor.mark.column == 0 && c == '%' then s.directive
    else if s.cursor.atIndicator '-' then s.leaveBlocks.map (·.take .documentStart 3)
    else if s.cursor.atIndicator '.' then s.leaveBlocks.map (·.take .documentEnd 3)
    else
      (s.token c).map fun s =>
        if s.tokens.getLast?.any (·.kind == .blockEntry) then s else s.skipLineComment

/-- The possible keys that may still turn out to be keys. -/
def openKeys (s : Scanner) : List Nat :=
  ((s.key :: s.outerKeys).filterMap id |>.filter (possibleAt · s.cursor.mark)).map (·.position)

end Scanner

/-- The tokens of a text, up to the place where it is malformed. -/
structure Tokens where
  tokens : List Token
  /-- Whether the whole text is well formed. -/
  complete : Bool
  /-- The positions of tokens that might be keys, were the text not malformed. -/
  openKeys : List Nat
  deriving Repr, Inhabited

/-- Scans until the end or until the text is malformed. -/
def scanFrom : Nat → Scanner → Tokens
  | 0, s => ⟨s.tokens, false, s.openKeys⟩
  | fuel + 1, s =>
    match s.step with
    | none => ⟨s.tokens, false, s.openKeys⟩
    | some s' =>
      if s'.tokens.getLast?.any (·.kind == .streamEnd) then ⟨s'.tokens, true, []⟩
      else scanFrom fuel s'

/-- The tokens of a text. Every step but the last takes a character. -/
def scan (text : List Char) : Tokens := scanFrom (text.length + 2) { cursor := { rest := text } }

end ComponentCompiler.Yaml
