import ComponentCompiler.Markup.Lex.Raw

/-!
# Splitting markup into tokens

`lex` reads a component source to its end. A tag that the source leaves unfinished gives no token,
so the tokens then cover the source only up to that tag.
-/

namespace ComponentCompiler.Markup

open ComponentCompiler.Markup.Lex

namespace Lex

/-- What the next bytes are read as. -/
inductive Mode where
  /-- Text and tags. -/
  | content
  /-- The raw text of an element. -/
  | raw (element : Bytes)
  deriving DecidableEq, Repr, Inhabited

/-- Whether `rest`, which follows a less-than sign, makes it the start of a tag, a comment or a
declaration. -/
def startsMarkup (rest : Bytes) : Bool :=
  rest.head?.any fun c =>
    Ascii.isLetter c || c == Ascii.slash || c == Ascii.bang || c == Ascii.question

/-- The number of bytes of text before the next markup. -/
def textSize : Bytes → Nat
  | [] => 0
  | c :: rest => if c = Ascii.less ∧ startsMarkup rest then 0 else 1 + textSize rest

/-- The number of bytes up to and including the next closing angle, or up to the end
of the source. -/
def angleSize : Bytes → Nat
  | [] => 0
  | c :: rest => if c = Ascii.greater then 1 else 1 + angleSize rest

/-- The number of bytes of a comment after its opening. `dashes` counts the dashes just read and
`beginning` says that nothing else was read yet. -/
def commentSize (dashes : Nat) (beginning : Bool) : Bytes → Nat
  | [] => 0
  | [_] => 1
  | c :: d :: rest =>
    if c = Ascii.dash then 1 + commentSize (dashes + 1) beginning (d :: rest)
    else if c = Ascii.greater ∧ (2 ≤ dashes ∨ beginning) then 1
    else if c = Ascii.bang ∧ 2 ≤ dashes then
      if d = Ascii.greater then 2
      else if d = Ascii.dash then 2 + commentSize 1 false rest
      else 2 + commentSize 0 false rest
    else 1 + commentSize 0 false (d :: rest)

/-- Whether a declaration, read from behind its `<!`, is a document type. -/
def isDoctype (s : Bytes) : Bool := Bytes.lowerAscii (s.take 7) == Bytes.lit "doctype"

/-- What a reading step finds: a token, the number of bytes that it takes, and the mode after it. -/
structure Step where
  token : Token
  size : Nat
  mode : Mode := .content

/-- The step at a start tag. `s` begins with the less-than sign. -/
def startTagStep? (s : Bytes) : Option Step :=
  (tag? s.tail).map fun t =>
    { token := if t.selfClosing then .selfClosingTag t.name t.attrs else .startTag t.name t.attrs
      size := s.length - t.rest.length
      mode := if rawElements.contains t.name then .raw t.name else .content }

/-- The step at a `</`. `s` begins with it and `rest` follows it. -/
def endTagStep? (s rest : Bytes) : Option Step :=
  match rest with
  | [] => some { token := .text s, size := 2 }
  | c :: _ =>
    if Ascii.isLetter c then
      (tag? rest).map fun t => { token := .endTag t.name, size := s.length - t.rest.length }
    else some { token := .comment, size := 2 + angleSize rest }

/-- The step at a `<!`, which `rest` follows. -/
def declarationStep (rest : Bytes) : Step :=
  if rest.take 2 = Bytes.lit "--" then
    { token := .comment, size := 4 + commentSize 0 true (rest.drop 2) }
  else
    { token := if isDoctype rest then .doctype else .comment, size := 2 + angleSize rest }

/-- The step at text: everything before the next markup. -/
def textStep (s : Bytes) : Step :=
  let size := textSize s
  { token := .text (Entity.unescape false (unifyNewlines (s.take size))), size }

/-- The step outside of raw text. -/
def contentStep? (s : Bytes) : Option Step :=
  match s with
  | [] => none
  | c :: rest =>
    if c = Ascii.less ∧ startsMarkup rest then
      match rest with
      | [] => none
      | d :: more =>
        if d = Ascii.slash then endTagStep? s more
        else if d = Ascii.bang then some (declarationStep more)
        else if d = Ascii.question then some { token := .comment, size := 1 + angleSize rest }
        else startTagStep? s
    else some (textStep s)

/-- The next step, if the source holds another token. Raw text that is empty gives none. -/
def step? (mode : Mode) (s : Bytes) : Option Step :=
  match mode with
  | .content => contentStep? s
  | .raw element =>
    let size := rawSize element s
    if size = 0 then contentStep? s
    else some { token := .text (rawData element (s.take size)), size }

/-- The tokens of `s`, read from the given mode on. -/
def lexFrom (mode : Mode) (s : Bytes) : List Lexeme :=
  match step? mode s with
  | none => []
  | some x =>
    if _h : (s.drop x.size).length < s.length then
      ⟨s.take x.size, x.token⟩ :: lexFrom x.mode (s.drop x.size)
    else []
termination_by s.length
decreasing_by exact _h

end Lex

/-- The tokens of a component source. -/
def lex (src : Bytes) : List Lexeme := lexFrom .content src

end ComponentCompiler.Markup
