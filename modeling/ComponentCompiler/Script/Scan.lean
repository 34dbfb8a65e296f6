import ComponentCompiler.Script.Token

/-!
# Splitting a script into tokens

`scan` covers every byte of the source with tokens. What a byte means depends on what came before
it: a slash starts a regular expression only where an expression may start, and a closing brace may
resume a template literal. That context is a `Context`, computed from the tokens already read by
`Context.advance`.
-/

namespace ComponentCompiler.Script

/-- What an open brace belongs to. -/
inductive Brace where
  /-- A brace of the code itself. -/
  | code
  /-- The opening of a template literal's substitution. -/
  | substitution
  deriving DecidableEq, Repr, Inhabited

/-- What the tokens read so far say about the next byte. Stacks hold the innermost entry first. -/
structure Context where
  /-- The braces that are still open. -/
  braces : List Brace := []
  /-- For each open parenthesis, whether it holds the condition of a control statement. -/
  parens : List Bool := []
  /-- Whether the last closing parenthesis ended such a condition. -/
  afterCondition : Bool := false
  /-- The last token that carries code. -/
  last : Option Token := none
  deriving DecidableEq, Repr, Inhabited

/-- The keywords after which a slash starts a regular expression. -/
def expressionKeywords : List Bytes :=
  ["return", "typeof", "instanceof", "in", "of", "new", "delete", "void", "throw", "case", "do",
    "else", "yield", "await"].map Bytes.lit

/-- The keywords whose parenthesised condition is followed by a statement. -/
def controlKeywords : List Bytes := ["if", "while", "for", "with"].map Bytes.lit

namespace Context

/-- Whether a slash starts a regular expression rather than a division. -/
def allowsRegex (ctx : Context) : Bool :=
  match ctx.last with
  | none => true
  | some t =>
    match t.kind with
    | .ident => expressionKeywords.contains t.text
    | .punct =>
      if t.text == [Ascii.closeParen] then ctx.afterCondition
      else t.text != [Ascii.closeBracket] && t.text != [Ascii.closeBrace]
    | .template opens => opens
    | _ => false

/-- Whether an opening parenthesis holds the condition of a control statement. -/
def atControl (ctx : Context) : Bool :=
  match ctx.last with
  | some t => t.kind == .ident && controlKeywords.contains t.text
  | none => false

/-- The open braces after a token. -/
def bracesAfter (ctx : Context) (t : Token) : List Brace :=
  match t.kind with
  | .punct =>
    if t.text == [Ascii.openBrace] then .code :: ctx.braces
    else if t.text == [Ascii.closeBrace] then ctx.braces.tail
    else ctx.braces
  | .template opens =>
    let outer := if t.text.head? == some Ascii.closeBrace then ctx.braces.tail else ctx.braces
    if opens then .substitution :: outer else outer
  | _ => ctx.braces

/-- The context after a token. -/
def advance (ctx : Context) (t : Token) : Context where
  braces := ctx.bracesAfter t
  parens :=
    if t.isPunct Ascii.openParen then ctx.atControl :: ctx.parens
    else if t.isPunct Ascii.closeParen then ctx.parens.tail
    else ctx.parens
  afterCondition :=
    if t.isPunct Ascii.closeParen then ctx.parens.headD false else ctx.afterCondition
  last := if t.isSignificant then some t else ctx.last

end Context

/-- The number of bytes of a string after its opening quote `q`. The closing quote is included; a
string that is not closed ends before the line break. -/
def stringRest (q : UInt8) : Bytes → Nat
  | [] => 0
  | [c] => if c = Ascii.newline then 0 else 1
  | c :: d :: rest =>
    if c = Ascii.backslash then 2 + stringRest q rest
    else if c = q then 1
    else if c = Ascii.newline then 0
    else 1 + stringRest q (d :: rest)

/-- The number of bytes of a template literal's text up to its end, which is the closing backquote,
the opening of a substitution or the end of the source, and whether a substitution ends it. -/
def chunkRest : Bytes → Nat × Bool
  | [] => (0, false)
  | [_] => (1, false)
  | c :: d :: rest =>
    if c = Ascii.backslash then let n := chunkRest rest; (2 + n.1, n.2)
    else if c = Ascii.backquote then (1, false)
    else if c = Ascii.dollar ∧ d = Ascii.openBrace then (2, true)
    else let n := chunkRest (d :: rest); (1 + n.1, n.2)

/-- The number of bytes of a block comment after its opening `/*`. -/
def blockCommentRest : Bytes → Nat
  | [] => 0
  | [_] => 1
  | c :: d :: rest =>
    if c = Ascii.star ∧ d = Ascii.slash then 2 else 1 + blockCommentRest (d :: rest)

/-- The number of bytes of a regular expression after its opening slash, flags included, when it is
closed on its line. A slash inside a bracketed class does not close it. -/
def regexRest? (inClass : Bool) : Bytes → Option Nat
  | [] => none
  | [c] => if c = Ascii.slash ∧ ¬inClass then some 1 else none
  | c :: d :: rest =>
    if c = Ascii.backslash then (regexRest? inClass rest).map (2 + ·)
    else if c = Ascii.newline then none
    else if c = Ascii.slash ∧ ¬inClass then some (1 + ((d :: rest).takeWhile isIdentByte).length)
    else
      (regexRest? (if c = Ascii.openBracket then true
        else if c = Ascii.closeBracket then false else inClass) (d :: rest)).map (1 + ·)

/-- The class of the token that begins with the byte `c`, followed by `rest`, and how many bytes of
`rest` belong to it. -/
def lexeme (ctx : Context) (c : UInt8) (rest : Bytes) : Kind × Nat :=
  if isSpaceByte c then (.space, (rest.takeWhile isSpaceByte).length)
  else if c = Ascii.slash ∧ rest.head? = some Ascii.slash then
    (.comment, (rest.takeWhile (· != Ascii.newline)).length)
  else if c = Ascii.slash ∧ rest.head? = some Ascii.star then
    (.comment, 1 + blockCommentRest rest.tail)
  else if c = Ascii.quote ∨ c = Ascii.apostrophe then (.string, stringRest c rest)
  else if c = Ascii.backquote ∨
      (c = Ascii.closeBrace ∧ ctx.braces.head? = some .substitution) then
    let n := chunkRest rest
    (.template n.2, n.1)
  else if isIdentByte c then
    if Ascii.isDigit c then
      (.number, (rest.takeWhile fun b => isIdentByte b || b == Ascii.dot).length)
    else (.ident, (rest.takeWhile isIdentByte).length)
  else if c = Ascii.slash ∧ ctx.allowsRegex then
    match regexRest? false rest with
    | some n => (.regex, n)
    | none => (.punct, 0)
  else (.punct, 0)

/-- The tokens of `s`, which starts at offset `start` of the source in the context `ctx`. -/
def scanFrom (ctx : Context) (start : Nat) : Bytes → List Token
  | [] => []
  | c :: rest =>
    let x := lexeme ctx c rest
    let t : Token := ⟨x.1, start, c :: rest.take x.2⟩
    t :: scanFrom (ctx.advance t) t.stop (rest.drop x.2)
termination_by s => s.length
decreasing_by simp only [List.length_drop, List.length_cons]; omega

/-- The tokens of a script. They cover every byte of it. -/
def scan (src : Bytes) : List Token := scanFrom {} 0 src

end ComponentCompiler.Script
