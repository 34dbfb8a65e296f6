import ComponentCompiler.Yaml.Token

/-!
# Scalars

The five ways to write a scalar. Inside plain and quoted scalars a single line break is folded to a
space and further ones are kept; folded block scalars do the same between lines that are not
indented further. Readers give nothing when the text is malformed.
-/

namespace ComponentCompiler.Yaml

/-! ## White space inside scalars -/

/-- White space met inside a scalar: the blanks of one line, or the first line break and
those after it. -/
structure Gap where
  blanks : List Char := []
  /-- The first line break, when there was one. -/
  first : List Char := []
  /-- The line breaks after the first. -/
  more : List Char := []
  /-- Whether a line break was met, so that blanks no longer count. -/
  broken : Bool := false
  deriving Repr, Inhabited

namespace Gap

/-- What a gap stands for between two parts of a scalar. -/
def folded (g : Gap) : List Char :=
  if g.broken then
    if g.first.head? == some '\n' then if g.more.isEmpty then [' '] else g.more
    else g.first ++ g.more
  else g.blanks

/-- Adds the white space at a cursor to a gap. When `indent` is given, a tab at the start of a line
to the left of it is an error. -/
def take? (indent : Option Int) : Nat → Gap → Cursor → Option (Gap × Cursor)
  | 0, _, _ => none
  | fuel + 1, g, c =>
    match c.peek with
    | none => some (g, c)
    | some ch =>
      if isBlank ch then
        if g.broken && ch == '\t' && indent.any fun i => (c.mark.column : Int) < i then none
        else take? indent fuel (if g.broken then g else { g with blanks := g.blanks ++ [ch] })
          c.skip
      else if isBreak ch then
        let (text, c) := c.takeBreak
        take? indent fuel
          (if g.broken then { g with more := g.more ++ text }
            else { g with blanks := [], first := text, broken := true }) c
      else some (g, c)

end Gap

/-! ## Plain scalars -/

/-- The characters that end a plain scalar in a flow collection. -/
def isFlowIndicator (c : Char) : Bool :=
  c == ',' || c == '[' || c == ']' || c == '{' || c == '}'

/-- The characters of a plain scalar up to white space or an indicator that ends it. -/
def plainRun (inFlow : Bool) : List Char → List Char
  | [] => []
  | c :: rest =>
    if isBlank c || isBreak c then []
    else if c == ':' && isSpaceOrEnd rest.head? then []
    else if inFlow && (isFlowIndicator c ||
        (c == '?' && rest.head?.all fun d => d == ' ' || isBreak d)) then []
    else c :: plainRun inFlow rest

/-- A scalar that was read: its text, the cursor after it, and whether line breaks
follow its text. -/
structure Read where
  text : List Char
  stop : Mark
  cursor : Cursor
  broken : Bool := false
  deriving Repr, Inhabited

/-- A plain scalar, given what was read of it and the white space after that. -/
def plain? (inFlow : Bool) (indent : Int) : Nat → List Char → Mark → Gap → Cursor → Option Read
  | 0, _, _, _, _ => none
  | fuel + 1, text, stop, gap, c =>
    let done := some ⟨text, stop, c, gap.broken⟩
    if c.atDocument || c.peek == some '#' then done
    else
      let run := plainRun inFlow c.rest
      let (text, gap, c') := if run.isEmpty then (text, gap, c)
        else (text ++ gap.folded ++ run, {}, c.skipN run.length)
      let stop := if run.isEmpty then stop else c'.mark
      match c'.peek with
      | some ch =>
        if isBlank ch || isBreak ch then
          match Gap.take? (some indent) (c'.rest.length + 1) gap c' with
          | none => none
          | some (gap, c'') =>
            if !inFlow && (c''.mark.column : Int) < indent then some ⟨text, stop, c'', gap.broken⟩
            else plain? inFlow indent fuel text stop gap c''
        else some ⟨text, stop, c', gap.broken⟩
      | none => some ⟨text, stop, c', gap.broken⟩

/-! ## Quoted scalars -/

/-- The characters of one-letter escapes. -/
def escapes : List (Char × Nat) :=
  [('0', 0x00), ('a', 0x07), ('b', 0x08), ('t', 0x09), ('\t', 0x09), ('n', 0x0a), ('v', 0x0b),
    ('f', 0x0c), ('r', 0x0d), ('e', 0x1b), (' ', 0x20), ('"', 0x22), ('\'', 0x27), ('\\', 0x5c),
    ('N', 0x85), ('_', 0xa0), ('L', 0x2028), ('P', 0x2029)]

/-- The number of digits of numeric escapes. -/
def escapeDigits : List (Char × Nat) := [('x', 2), ('u', 4), ('U', 8)]

/-- The value of exactly `n` hexadecimal digits. -/
def hexValue? (digits : List Char) (n : Nat) : Option Nat :=
  if digits.length < n then none
  else (digits.take n).foldl (fun acc d => acc.bind fun v => (hexDigit? d).map (v * 16 + ·))
    (some 0)

/-- The character of the escape at a cursor, which stands on the backslash, and the
cursor after it. -/
def escape? (c : Cursor) : Option (Char × Cursor) :=
  match c.peekAt 1 with
  | none => none
  | some e =>
    match escapes.lookup e with
    | some n => some (Char.ofNat n, c.skipN 2)
    | none =>
      match escapeDigits.lookup e with
      | none => none
      | some n =>
        match hexValue? (c.rest.drop 2) n with
        | none => none
        | some v => if v.isValidChar then some (Char.ofNat v, c.skipN (2 + n)) else none

/-- What ends a run of characters in a quoted scalar. -/
inductive RunEnd where
  /-- White space, the end of the text, or the closing quote. -/
  | plain
  /-- An escaped line break. -/
  | escapedBreak
  deriving DecidableEq, Repr, Inhabited

/-- A run of characters of a quoted scalar up to white space or the closing quote. -/
def quotedRun? (double : Bool) : Nat → List Char → Cursor → Option (List Char × RunEnd × Cursor)
  | 0, _, _ => none
  | fuel + 1, acc, c =>
    match c.peek with
    | none => some (acc, .plain, c)
    | some ch =>
      if isBlank ch || isBreak ch then some (acc, .plain, c)
      else if !double && ch == '\'' then
        if c.peekAt 1 == some '\'' then quotedRun? double fuel (acc ++ [ch]) (c.skipN 2)
        else some (acc, .plain, c)
      else if double && ch == '"' then some (acc, .plain, c)
      else if double && ch == '\\' then
        if (c.peekAt 1).any isBreak then some (acc, .escapedBreak, c.skip.skipBreak)
        else
          match escape? c with
          | none => none
          | some (e, c) => quotedRun? double fuel (acc ++ [e]) c
      else quotedRun? double fuel (acc ++ [ch]) c.skip

/-- A quoted scalar from behind its opening quote, given what was read of it. -/
def quoted? (double : Bool) : Nat → List Char → Cursor → Option Read
  | 0, _, _ => none
  | fuel + 1, text, c =>
    if c.atDocument || c.peek.isNone then none
    else
      match quotedRun? double (c.rest.length + 1) [] c with
      | none => none
      | some (run, ending, c) =>
        if c.peek == some (if double then '"' else '\'') then
          some ⟨text ++ run, c.skip.mark, c.skip, false⟩
        else
          match Gap.take? none (c.rest.length + 1) { broken := ending == .escapedBreak } c with
          | none => none
          | some (gap, c) => quoted? double fuel (text ++ run ++ gap.folded) c

/-! ## Block scalars -/

/-- What happens to the line breaks at the end of a block scalar. -/
inductive Chomping where
  | strip
  | clip
  | keep
  deriving DecidableEq, Repr, Inhabited

/-- The chomping indicator at a cursor. -/
def chomping? (c : Cursor) : Option Chomping :=
  match c.peek with
  | some '+' => some .keep
  | some '-' => some .strip
  | _ => none

/-- The indentation indicator at a cursor: a digit, which may not be zero. -/
def increment? (c : Cursor) : Option Nat :=
  match c.peek with
  | some d => if d.isDigit then some (d.toNat - 48) else none
  | none => none

/-- The header of a block scalar, up to its end of line: chomping and indentation in
either order. -/
def blockHeader? (c : Cursor) : Option (Chomping × Nat × Cursor) :=
  let (chomp, inc, c) :=
    match chomping? c with
    | some ch =>
      let c := c.skip
      match increment? c with
      | some n => (ch, some n, c.skip)
      | none => (ch, none, c)
    | none =>
      match increment? c with
      | some n =>
        let c := c.skip
        match chomping? c with
        | some ch => (ch, some n, c.skip)
        | none => (.clip, some n, c)
      | none => (.clip, none, c)
  let c := c.skipWhile isBlank
  let c := if c.peek == some '#' then c.skipWhile (!isBreak ·) else c
  if inc == some 0 || !isBreakOrEnd c.peek then none
  else some (chomp, inc.getD 0, c.skipBreak)

/-- The line breaks in front of a block scalar's next line, with its indentation passed, and
the largest indentation met. An indentation of zero is not known yet. A tab in the
indentation is an error. -/
def blockBreaks? (indent : Nat) : Nat → List Char → Nat → Cursor → Option (List Char × Nat × Cursor)
  | 0, _, _, _ => none
  | fuel + 1, breaks, deepest, c =>
    let width := (c.rest.takeWhile (· == ' ')).length
    let c := c.skipN (if indent == 0 then width else min width (indent - c.mark.column))
    let deepest := max deepest c.mark.column
    match c.peek with
    | some ch =>
      if ch == '\t' && (indent == 0 || c.mark.column < indent) then none
      else if isBreak ch then
        let (text, c) := c.takeBreak
        blockBreaks? indent fuel (breaks ++ text) deepest c
      else some (breaks, deepest, c)
    | none => some (breaks, deepest, c)

/-- The lines of a block scalar. `lead` is the break that ended the line before and `trail` those
after it; `wasBlank` says whether that line started with white space. -/
def blockLines? (literal : Bool) (indent : Nat) :
    Nat → List Char → List Char → List Char → Bool → Cursor →
      Option (List Char × List Char × List Char × Cursor)
  | 0, _, _, _, _, _ => none
  | fuel + 1, text, lead, trail, wasBlank, c =>
    if c.mark.column == indent && c.peek.isSome then
      let startsBlank := c.peek.any isBlank
      let joined :=
        if !literal && !wasBlank && !startsBlank && lead.head? == some '\n' then
          if trail.isEmpty then [' '] else []
        else lead
      let line := c.rest.takeWhile (!isBreak ·)
      let (lead, c) := (c.skipN line.length).takeBreak
      match blockBreaks? indent (c.rest.length + 1) [] 0 c with
      | none => none
      | some (breaks, _, c) =>
        blockLines? literal indent fuel (text ++ joined ++ trail ++ line) lead breaks startsBlank c
    else some (text, lead, trail, c)

/-- A block scalar from behind its indicator. `parent` is the indentation around it. -/
def block? (literal : Bool) (parent : Int) (c : Cursor) : Option Read :=
  match blockHeader? c with
  | none => none
  | some (chomp, increment, c) =>
    let given : Nat := if increment == 0 then 0 else (max parent 0).toNat + increment
    match blockBreaks? given (c.rest.length + 1) [] 0 c with
    | none => none
    | some (breaks, deepest, c) =>
      let indent := if given == 0 then max (max deepest (parent + 1).toNat) 1 else given
      match blockLines? literal indent (c.rest.length + 1) [] [] breaks false c with
      | none => none
      | some (text, lead, trail, c) =>
        let tail :=
          match chomp with
          | .strip => []
          | .clip => lead
          | .keep => lead ++ trail
        some ⟨text ++ tail, c.mark, c, false⟩

end ComponentCompiler.Yaml
