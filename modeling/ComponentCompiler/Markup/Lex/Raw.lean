import ComponentCompiler.Markup.Lex.Tag

/-!
# Raw text

Some elements hold raw text, in which no tag begins before the element's own end tag. The text of a
script may also hold comments, inside which another script element may be nested, so that its end
tag does not count.
-/

namespace ComponentCompiler.Markup.Lex

/-- The elements that hold raw text. -/
def rawElements : List Bytes :=
  ["iframe", "noembed", "noframes", "noscript", "plaintext", "script", "style", "textarea", "title",
    "xmp"].map Bytes.lit

/-- The raw elements whose text may hold character references. -/
def escapableElements : List Bytes := ["textarea", "title"].map Bytes.lit

/-- Whether `s`, which follows a `</`, goes on with the end of a tag named `name`. -/
def endsTag (name s : Bytes) : Bool :=
  Bytes.lowerAscii (s.take name.length) == name &&
    (s.drop name.length).head?.any fun c => isTagSpace c || c == Ascii.slash || c == Ascii.greater

/-- The number of bytes before the end tag `name`, or before the end of the source. -/
def rawTextSize (name : Bytes) : Bytes → Nat
  | [] => 0
  | c :: rest =>
    if c = Ascii.less ∧ rest.head? = some Ascii.slash ∧ endsTag name rest.tail then 0
    else 1 + rawTextSize name rest

/-- Where the text of a script stands. -/
inductive ScriptState where
  /-- Outside of comments. -/
  | plain
  /-- Inside a comment, after `dashes` dashes, of which at most two are counted. -/
  | escaped (dashes : Nat)
  /-- Inside a script element that is nested in a comment, after `dashes` dashes. -/
  | nested (dashes : Nat)
  deriving DecidableEq, Repr, Inhabited

/-- The name of the script element. -/
def scriptName : Bytes := Bytes.lit "script"

/-- One step inside a comment or a nested script on a byte that is neither a less-than sign nor at
the end of the comment: dashes are counted. -/
def countDash (dashes : Nat) (c : UInt8) : Nat :=
  if c = Ascii.dash then min (dashes + 1) 2 else 0

/-- The number of bytes of a script's text, given how many bytes in front are already settled and
the state after them. -/
def scriptSize : Nat → ScriptState → Bytes → Nat
  | _, _, [] => 0
  | settled + 1, state, _ :: rest => 1 + scriptSize settled state rest
  | 0, .plain, c :: rest =>
    if c = Ascii.less then
      if rest.head? = some Ascii.slash ∧ endsTag scriptName rest.tail then 0
      else if rest.take 3 = Bytes.lit "!--" then 1 + scriptSize 3 (.escaped 2) rest
      else 1 + scriptSize 0 .plain rest
    else 1 + scriptSize 0 .plain rest
  | 0, .escaped dashes, c :: rest =>
    if c = Ascii.less then
      match rest.head? with
      | none => 1
      | some d =>
        if d = Ascii.slash then
          if endsTag scriptName rest.tail then 0 else 1 + scriptSize 1 (.escaped 0) rest
        else if Ascii.isLetter d then
          if endsTag scriptName rest then
            1 + scriptSize (scriptName.length + 1) (.nested 0) rest
          else 1 + scriptSize 0 (.escaped 0) rest
        else 1 + scriptSize 0 .plain rest
    else if c = Ascii.greater ∧ dashes = 2 then 1 + scriptSize 0 .plain rest
    else 1 + scriptSize 0 (.escaped (countDash dashes c)) rest
  | 0, .nested dashes, c :: rest =>
    if c = Ascii.less then
      if rest.head? = some Ascii.slash then
        if endsTag scriptName rest.tail then
          1 + scriptSize (scriptName.length + 2) (.escaped 0) rest
        else 1 + scriptSize 1 (.nested 0) rest
      else 1 + scriptSize 0 (.nested 0) rest
    else if c = Ascii.greater ∧ dashes = 2 then 1 + scriptSize 0 .plain rest
    else 1 + scriptSize 0 (.nested (countDash dashes c)) rest

/-- The number of bytes of raw text that follow the start tag `name`. Nothing ends plain text. -/
def rawSize (name s : Bytes) : Nat :=
  if name = Bytes.lit "plaintext" then s.length
  else if name = scriptName then scriptSize 0 .plain s
  else rawTextSize name s

/-- Raw text as data: line breaks are unified and a NUL becomes the replacement character. -/
def rawData (name written : Bytes) : Bytes :=
  let data := (unifyNewlines written).flatMap fun c =>
    if c = Ascii.nul then Utf8.encodeCode 0xfffd else [c]
  if escapableElements.contains name then Entity.unescape false data else data

end ComponentCompiler.Markup.Lex
