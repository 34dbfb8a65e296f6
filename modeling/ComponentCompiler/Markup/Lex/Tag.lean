import ComponentCompiler.Markup.Entity
import ComponentCompiler.Markup.Token

/-!
# Reading tags

A tag is a name followed by attributes. Every reader returns what it found with the bytes behind it,
and nothing when the source ends first.
-/

namespace ComponentCompiler.Markup.Lex

/-- White space inside tags. -/
def isTagSpace (c : UInt8) : Bool :=
  c == Ascii.space || c == Ascii.newline || c == Ascii.carriageReturn || c == Ascii.tab ||
    c == Ascii.formFeed

/-- Line breaks of any kind as single newlines. -/
def unifyNewlines : Bytes → Bytes
  | [] => []
  | c :: rest =>
    if c = Ascii.carriageReturn then
      if rest.head? = some Ascii.newline then unifyNewlines rest
      else Ascii.newline :: unifyNewlines rest
    else c :: unifyNewlines rest

/-- A byte of a tag's name. -/
def isNameByte (c : UInt8) : Bool := !isTagSpace c && c != Ascii.slash && c != Ascii.greater

/-- A byte of an attribute's name, the first one apart. -/
def isKeyByte (c : UInt8) : Bool := isNameByte c && c != Ascii.equals

/-- An attribute's name. An equals sign in front belongs to it. -/
def key (s : Bytes) : Bytes :=
  match s with
  | c :: rest => if c = Ascii.equals then c :: rest.takeWhile isKeyByte else s.takeWhile isKeyByte
  | [] => []

/-- An attribute's value as written, and what follows it. -/
structure Value where
  written : Bytes
  rest : Bytes
  /-- Whether a slash stands where the value could have been. -/
  slash : Bool := false

/-- The value that ends before the byte `q`, which is dropped. -/
def quotedValue? (q : UInt8) (s : Bytes) : Option Value :=
  match s.dropWhile (· != q) with
  | _ :: rest => some { written := s.takeWhile (· != q), rest }
  | [] => none

/-- The value that follows an equals sign. -/
def assignedValue? (s : Bytes) : Option Value :=
  match s.dropWhile isTagSpace with
  | [] => none
  | c :: rest =>
    if c = Ascii.greater then some { written := [], rest := c :: rest }
    else if c = Ascii.apostrophe ∨ c = Ascii.quote then quotedValue? c rest
    else
      let isPart := fun b => !isTagSpace b && b != Ascii.greater
      match rest.dropWhile isPart with
      | [] => none
      | after => some { written := c :: rest.takeWhile isPart, rest := after }

/-- The value of an attribute whose name was just read. -/
def value? (s : Bytes) : Option Value :=
  match s.dropWhile isTagSpace with
  | [] => none
  | c :: rest =>
    if c = Ascii.slash then some { written := [], rest, slash := true }
    else if c = Ascii.equals then assignedValue? rest
    else some { written := [], rest := c :: rest }

/-- The attributes of a tag and what follows its closing angle. -/
structure Attributes where
  attrs : List Attribute
  rest : Bytes
  /-- Whether a slash stands right before the closing angle. -/
  selfClosing : Bool

/-- An attribute, its value with line breaks unified and references replaced. An empty
name makes none. -/
def attribute? (name written : Bytes) : Option Attribute :=
  if name.isEmpty then none
  else some ⟨name.lowerAscii, Entity.unescape true (unifyNewlines written)⟩

/-- The attributes up to the closing angle. `slash` says whether a slash stands right before `s`. -/
def attributes? (slash : Bool) (s : Bytes) : Option Attributes :=
  match s.head? with
  | none => none
  | some c =>
    if c = Ascii.greater then some ⟨[], s.tail, slash⟩
    else
      let name := key s
      match value? (s.drop name.length) with
      | none => none
      | some v =>
        let after := v.rest.dropWhile isTagSpace
        if _h : after.length < s.length then
          match attributes? (v.slash && after.length == v.rest.length) after with
          | none => none
          | some more =>
              some { more with attrs := (attribute? name v.written).toList ++ more.attrs }
        else none
termination_by s.length

/-- A tag: its name in lower case and its attributes. -/
structure Tag where
  name : Bytes
  attrs : List Attribute
  selfClosing : Bool
  rest : Bytes

/-- The tag whose name begins with the first byte of `s`. -/
def tag? (s : Bytes) : Option Tag :=
  let name : Bytes := s.takeWhile isNameByte
  (attributes? false ((s.drop name.length).dropWhile isTagSpace)).map fun a =>
    ⟨name.lowerAscii, a.attrs, a.selfClosing, a.rest⟩

end ComponentCompiler.Markup.Lex
