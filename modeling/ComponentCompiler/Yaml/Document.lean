import ComponentCompiler.Yaml.Node
import ComponentCompiler.Yaml.Scan

/-!
# Building documents from tokens

Only the first document of a text is built; what follows it is not looked at beyond the next three
tokens, so that a text may be malformed further on.
-/

namespace ComponentCompiler.Yaml

/-- The state of building a document. -/
structure Builder where
  /-- The tokens that are left. -/
  rest : List Token
  /-- The number of tokens in front of them. -/
  position : Nat := 0
  /-- Whether the scan reached the end of the text. -/
  complete : Bool
  /-- The positions of tokens that might be keys, were the text not malformed. -/
  openKeys : List Nat
  /-- What tag handles stand for. -/
  handles : List (Bytes × Bytes) := []
  /-- The number of each anchor, the latest first. -/
  anchors : List (Bytes × Nat) := []
  /-- The anchored nodes that are finished. -/
  anchored : List (Nat × Node) := []
  /-- The number of aliases so far. -/
  aliases : Nat := 0
  deriving Repr, Inhabited

/-- Building that fails when the text is malformed. -/
abbrev Build := StateT Builder Option

namespace Build

/-- The next token. Three tokens must be known from there on, and more if the next
might be a key. -/
def peek : Build Token := fun b =>
  if b.complete || (3 ≤ b.rest.length && !b.openKeys.contains b.position) then
    b.rest.head?.map fun t => (t, b)
  else none

/-- Passes the next token. -/
def skip : Build Unit := modify fun b => { b with rest := b.rest.tail, position := b.position + 1 }

/-- A scalar that is not written, at a place. -/
def emptyAt (m : Mark) : Node := .scalar none [] .plain (m.line + 1)

/-- The handles that need no directive. -/
def defaultHandles : List (Bytes × Bytes) :=
  [(Bytes.lit "!", Bytes.lit "!"), (Bytes.lit "!!", standardTags)]

/-- Adds a tag handle that is not known yet. -/
def addHandle (handle scope : Bytes) : Build Unit := fun b =>
  if (b.handles.lookup handle).isSome then none
  else some ((), { b with handles := b.handles ++ [(handle, scope)] })

/-- The tag of a handle and a suffix; the tag `!` asks for nothing. -/
def tagOf (handle suffix : Bytes) : Build (Option Bytes) := fun b =>
  let tag :=
    if handle.isEmpty then some suffix
    else ((b.handles ++ defaultHandles).lookup handle).map (· ++ suffix)
  tag.map fun t => (if t = Bytes.lit "!" then none else some (shortTag t), b)

/-- What may stand in front of a node. -/
structure Properties where
  anchor : Option Bytes := none
  tag : Option Bytes := none
  /-- Whether anything stands there. -/
  present : Bool := false

/-- The anchor and the tag in front of a node, in either order. -/
def properties : Build Properties := do
  match (← peek).kind with
  | .anchor name =>
    skip
    match (← peek).kind with
    | .tag handle suffix =>
      skip
      return ⟨some (Utf8.encodeChars name), ← tagOf handle suffix, true⟩
    | _ => return ⟨some (Utf8.encodeChars name), none, true⟩
  | .tag handle suffix =>
    skip
    match (← peek).kind with
    | .anchor name =>
      skip
      return ⟨some (Utf8.encodeChars name), ← tagOf handle suffix, true⟩
    | _ => return ⟨none, ← tagOf handle suffix, true⟩
  | _ => return {}

/-- Gives an anchor the next number. -/
def openAnchor (anchor : Option Bytes) : Build (Option Nat) := fun b =>
  match anchor with
  | none => some (none, b)
  | some name =>
      some (some b.anchors.length, { b with anchors := (name, b.anchors.length) :: b.anchors })

/-- Keeps the finished node of an anchor. -/
def closeAnchor (number : Option Nat) (n : Node) : Build Node := fun b =>
  match number with
  | none => some (n, b)
  | some k => some (n, { b with anchored := (k, n) :: b.anchored })

/-- An alias of an anchor that is known. -/
def aliasNode (name : Bytes) (line : Nat) : Build Node := fun b =>
  (b.anchors.lookup name).map fun k => (.reference name k b.aliases line,
    { b with aliases := b.aliases + 1 })

/-! ## Nodes -/

mutual

/-- The next node. Block collections may start it only if `block`, and a sequence without
indentation only if `indentless`. -/
def node : Nat → Bool → Bool → Build Node
  | 0, _, _ => failure
  | fuel + 1, block, indentless => do
    let first ← peek
    match first.kind with
    | .reference name =>
      skip
      aliasNode (Utf8.encodeChars name) (first.start.line + 1)
    | _ =>
      let props ← properties
      let number ← openAnchor props.anchor
      let line := first.start.line + 1
      let t ← peek
      let n ← (do
        match t.kind with
        | .scalar text style =>
          skip
          return .scalar props.tag (Utf8.encodeChars text) style line
        | .flowSequenceStart =>
          skip
          return .sequence props.tag (← flowItems fuel true) line
        | .flowMappingStart =>
          skip
          return .mapping props.tag (← flowEntries fuel true) line
        | .blockEntry =>
          if indentless then return .sequence props.tag (← looseItems fuel) line
          else if props.present then return .scalar props.tag [] .plain line
          else failure
        | .blockSequenceStart =>
          if block then
            skip
            return .sequence props.tag (← blockItems fuel) line
          else if props.present then return .scalar props.tag [] .plain line
          else failure
        | .blockMappingStart =>
          if block then
            skip
            return .mapping props.tag (← blockEntries fuel) line
          else if props.present then return .scalar props.tag [] .plain line
          else failure
        | _ => if props.present then return .scalar props.tag [] .plain line else failure)
      closeAnchor number n

/-- The items of a block sequence, with its end. -/
def blockItems : Nat → Build (List Node)
  | 0 => failure
  | fuel + 1 => do
    let t ← peek
    match t.kind with
    | .blockEntry =>
      skip
      let item ← (do
        match (← peek).kind with
        | .blockEntry | .blockEnd => return emptyAt t.stop
        | _ => node fuel true false)
      return item :: (← blockItems fuel)
    | .blockEnd =>
      skip
      return []
    | _ => failure

/-- The items of a sequence in a mapping that is not indented further. -/
def looseItems : Nat → Build (List Node)
  | 0 => failure
  | fuel + 1 => do
    let t ← peek
    match t.kind with
    | .blockEntry =>
      skip
      let item ← (do
        match (← peek).kind with
        | .blockEntry | .key | .value | .blockEnd => return emptyAt t.stop
        | _ => node fuel true false)
      return item :: (← looseItems fuel)
    | _ => return []

/-- The entries of a block mapping, with its end. -/
def blockEntries : Nat → Build (List (Node × Node))
  | 0 => failure
  | fuel + 1 => do
    let t ← peek
    match t.kind with
    | .key =>
      skip
      let key ← (do
        match (← peek).kind with
        | .key | .value | .blockEnd => return emptyAt t.stop
        | _ => node fuel true true)
      let value ← blockValue fuel
      return (key, value) :: (← blockEntries fuel)
    | .blockEnd =>
      skip
      return []
    | _ => failure

/-- The value of an entry of a block mapping. -/
def blockValue : Nat → Build Node
  | 0 => failure
  | fuel + 1 => do
    let t ← peek
    match t.kind with
    | .value =>
      skip
      match (← peek).kind with
      | .key | .value | .blockEnd => return emptyAt t.stop
      | _ => node fuel true true
    | _ => return emptyAt t.start

/-- The items of a flow sequence, with its end. -/
def flowItems : Nat → Bool → Build (List Node)
  | 0, _ => failure
  | fuel + 1, first => do
    match (← peek).kind with
    | .flowSequenceEnd =>
      skip
      return []
    | kind =>
      if !first then
        if kind == .flowEntry then skip else failure
      let t ← peek
      match t.kind with
      | .flowSequenceEnd =>
        skip
        return []
      | .key =>
        skip
        let entry ← pair fuel
        return .mapping none [entry] (t.start.line + 1) :: (← flowItems fuel false)
      | _ =>
        let item ← node fuel false false
        return item :: (← flowItems fuel false)

/-- The only entry of a mapping that is an item of a flow sequence. A missing key takes the place of
the token found. -/
def pair : Nat → Build (Node × Node)
  | 0 => failure
  | fuel + 1 => do
    let t ← peek
    let key ← (do
      match t.kind with
      | .value | .flowEntry | .flowSequenceEnd =>
        skip
        return emptyAt t.stop
      | _ => node fuel false false)
    let t ← peek
    match t.kind with
    | .value =>
      skip
      let u ← peek
      match u.kind with
      | .flowEntry | .flowSequenceEnd => return (key, emptyAt u.start)
      | _ => return (key, ← node fuel false false)
    | _ => return (key, emptyAt t.start)

/-- The entries of a flow mapping, with its end. -/
def flowEntries : Nat → Bool → Build (List (Node × Node))
  | 0, _ => failure
  | fuel + 1, first => do
    match (← peek).kind with
    | .flowMappingEnd =>
      skip
      return []
    | kind =>
      if !first then
        if kind == .flowEntry then skip else failure
      match (← peek).kind with
      | .flowMappingEnd =>
        skip
        return []
      | .key =>
        skip
        let u ← peek
        let key ← (do
          match u.kind with
          | .value | .flowEntry | .flowMappingEnd => return emptyAt u.start
          | _ => node fuel false false)
        let value ← flowValue fuel
        return (key, value) :: (← flowEntries fuel false)
      | _ =>
        let key ← node fuel false false
        let t ← peek
        return (key, emptyAt t.start) :: (← flowEntries fuel false)

/-- The value of an entry of a flow mapping. -/
def flowValue : Nat → Build Node
  | 0 => failure
  | fuel + 1 => do
    let t ← peek
    match t.kind with
    | .value =>
      skip
      let u ← peek
      match u.kind with
      | .flowEntry | .flowMappingEnd => return emptyAt u.start
      | _ => node fuel false false
    | _ => return emptyAt t.start

end

/-! ## The document -/

/-- The directives in front of a document. The version may be given once, and must be 1.1. -/
def directives : Nat → Bool → Build Unit
  | 0, _ => failure
  | fuel + 1, versioned => do
    match (← peek).kind with
    | .version major minor =>
      if versioned || major != 1 || minor != 1 then failure
      skip
      directives fuel true
    | .tagDirective handle scope =>
      addHandle handle scope
      skip
      directives fuel versioned
    | _ => return ()

/-- The root of a document that starts with an indicator; it may be missing. -/
def explicitRoot (fuel : Nat) : Build Node := do
  directives fuel false
  match (← peek).kind with
  | .documentStart =>
    skip
    let t ← peek
    match t.kind with
    | .version .. | .tagDirective .. | .documentStart | .documentEnd | .streamEnd =>
      return emptyAt t.start
    | _ => node fuel true false
  | _ => failure

/-- The root of the first document, if there is one, with the token after it looked at. -/
def root (fuel : Nat) : Build (Option Node) := do
  match (← peek).kind with
  | .streamEnd => return none
  | .version .. | .tagDirective .. | .documentStart =>
    let n ← explicitRoot fuel
    let _ ← peek
    return some n
  | _ =>
    let n ← node fuel true false
    let _ ← peek
    return some n

end Build

/-- The first document of a text: nothing when the text is malformed, and no document
when it is empty. -/
def Document.parse? (s : Bytes) : Option (Option Document) :=
  (decode? s).bind fun text =>
    let t := scan text
    let b : Builder := { rest := t.tokens, complete := t.complete, openKeys := t.openKeys }
    ((Build.root (3 * t.tokens.length + 3)).run b).map fun (n, b) =>
      n.map fun n => ⟨n, b.anchored⟩

end ComponentCompiler.Yaml
