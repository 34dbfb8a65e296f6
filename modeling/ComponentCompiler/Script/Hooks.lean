import ComponentCompiler.Script.Scan
import ComponentCompiler.Script.Splice

/-!
# Hook references

A hook is an identifier that the script uses as a free function and that the component instance
provides. Each reference is turned into a member of the instance by inserting `this.` before it.
Member accesses, declared names, names of an import or export list and object keys are no
references.
-/

namespace ComponentCompiler.Script

/-- An open bracket, or the opening of a template literal's substitution. -/
inductive Bracket where
  | paren
  | square
  | brace
  | substitution
  deriving DecidableEq, Repr, Inhabited

/-- The open brackets after a token, innermost first. -/
def bracketsAfter (enclosing : List Bracket) (t : Token) : List Bracket :=
  match t.kind with
  | .punct =>
    if t.text == [Ascii.openParen] then .paren :: enclosing
    else if t.text == [Ascii.openBracket] then .square :: enclosing
    else if t.text == [Ascii.openBrace] then .brace :: enclosing
    else if t.text == [Ascii.closeParen] || t.text == [Ascii.closeBracket] ||
        t.text == [Ascii.closeBrace] then enclosing.tail
    else enclosing
  | .template opens =>
    let outer := if t.text.head? == some Ascii.closeBrace then enclosing.tail else enclosing
    if opens then .substitution :: outer else outer
  | _ => enclosing

/-- The keywords that are followed by a declared, imported or exported name. -/
def declarationKeywords : List Bytes :=
  ["function", "const", "let", "var", "class", "import", "export", "as"].map Bytes.lit

/-- Whether a token ends an object key or a name of an import or export list. -/
def endsKey (t : Token) : Bool :=
  t.isPunct Ascii.colon || t.isPunct Ascii.comma || t.isPunct Ascii.closeBrace ||
    t.isIdent (Bytes.lit "as")

/-- Whether a hook name after `prev` and before `next` is a reference, rather than a member, a
declared name or a key. `inBraces` says that the innermost open bracket is a brace. -/
def isReference (prev : Token) (next : Option Token) (inBraces : Bool) : Bool :=
  !prev.isPunct Ascii.dot &&
  !(prev.kind == .ident && declarationKeywords.contains prev.text) &&
  !(inBraces && (prev.isPunct Ascii.openBrace || prev.isPunct Ascii.comma) && next.any endsKey)

/-- Whether a token between `prev` and `next` is a reference to a hook. The first token of a script
is a reference whenever it names a hook. -/
def isHookReference (hooks : List Bytes) (enclosing : List Bracket) (prev : Option Token)
    (t : Token) (next : Option Token) : Bool :=
  t.kind == .ident && hooks.contains t.text &&
    prev.all fun p => isReference p next (enclosing.head? == some .brace)

/-- The references to hooks among significant tokens, given the brackets that enclose the first of
them and the token before it. -/
def hookReferences (hooks : List Bytes) : List Bracket → Option Token → List Token → List Token
  | _, _, [] => []
  | enclosing, prev, t :: rest =>
    let later := hookReferences hooks (bracketsAfter enclosing t) (some t) rest
    if isHookReference hooks enclosing prev t rest.head? then t :: later else later

/-- The splices that turn the hook references of a script into members of the component instance. -/
def hookSplices (code : Bytes) (hooks : List Bytes) : List Splice :=
  (hookReferences hooks [] none (significant (scan code))).map fun t => ⟨t.start, Bytes.lit "this."⟩

end ComponentCompiler.Script
