import ComponentCompiler.Settings.Basic
import ComponentCompiler.Text.Base64
import ComponentCompiler.Yaml.Document

/-!
# Settings from documents

Settings are read field by field from a mapping. A value of the wrong type leaves its field alone
and is noted, so that all such values are reported together; keys that are not known are ignored. A
mapping may merge others in: their entries count for names that it has not got itself.
-/

namespace ComponentCompiler.Settings

open Yaml

/-- The types of fields. -/
inductive FieldType where
  | text
  | texts
  | bool
  | int
  | duration
  | settings
  | watch
  | logging
  deriving DecidableEq, Repr, Inhabited

/-- The name of a type in messages. -/
def FieldType.name : FieldType → Bytes
  | text => Bytes.lit "string"
  | texts => Bytes.lit "[]string"
  | bool => Bytes.lit "bool"
  | int => Bytes.lit "int"
  | duration => Bytes.lit "time.Duration"
  | settings => Bytes.lit "config.Config"
  | watch => Bytes.lit "config.WatchConfig"
  | logging => Bytes.lit "config.LoggingConfig"

/-- What can be wrong with the values of a well-formed document. -/
inductive TypeFault where
  /-- A value is not of the type of its field. -/
  | mismatch (line : Nat) (tag : Bytes) (value : Option Bytes) (type : FieldType)
  /-- A mapping has two equal keys. -/
  | duplicateKey (line : Nat) (key : Bytes) (earlier : Nat)
  /-- Two keys of a mapping name the same field. -/
  | duplicateField (line : Nat) (name : Bytes) (type : FieldType)
  deriving DecidableEq, Repr, Inhabited

namespace TypeFault

/-- A value as messages show it: what is longer than ten bytes is cut to seven. -/
def shown (value : Bytes) : Bytes :=
  if 10 < value.length then value.take 7 ++ Bytes.lit "..." else value

/-- The message of a fault. -/
def message : TypeFault → Bytes
  | mismatch line tag value type =>
    let shownValue :=
      match value with
      | some v => Bytes.lit " `" ++ shown v ++ Bytes.lit "`"
      | none => []
    Bytes.lit "line " ++ Bytes.ofNat line ++ Bytes.lit ": cannot unmarshal " ++ tag ++ shownValue ++
      Bytes.lit " into " ++ type.name
  | duplicateKey line key earlier =>
    Bytes.lit "line " ++ Bytes.ofNat line ++ Bytes.lit ": mapping key " ++ Text.quoted key ++
      Bytes.lit " already defined at line " ++ Bytes.ofNat earlier
  | duplicateField line name type =>
    Bytes.lit "line " ++ Bytes.ofNat line ++ Bytes.lit ": field " ++ name ++
      Bytes.lit " already set in type " ++ type.name

end TypeFault

/-- Decoding collects type faults, and fails for good when a value contradicts its tag, when a
mapping merges what is no mapping, or when a node contains itself. -/
abbrev Decode := StateT (List TypeFault) Option

namespace Decode

/-- Notes a fault. -/
def note (f : TypeFault) : Decode Unit := modify (· ++ [f])

/-- Notes that a node is not of a type. -/
def mismatch (n : Node) (type : FieldType) : Decode Unit :=
  let tag := n.tag
  let value := if tag = Bytes.lit "!!seq" ∨ tag = Bytes.lit "!!map" then none else some n.text
  note (.mismatch n.line tag value type)

/-- The node that a node stands for: itself, or the node with its anchor. -/
def target (doc : Document) (n : Node) : Decode Node :=
  match n with
  | .reference _ k _ _ => fun fs => (doc.anchored.lookup k).map (·, fs)
  | _ => pure n

/-- Notes equal keys of a mapping, and gives whether there are any. -/
def duplicates : List Node → List TypeFault
  | [] => []
  | k :: ks =>
    ((ks.filter fun k' => k'.kind == k.kind && k'.text == k.text).map fun k' =>
      .duplicateKey k'.line k'.text k.line) ++ duplicates ks

/-- The value of a scalar, with the bytes of base 64 text decoded. -/
def scalarValue (tag : Option Bytes) (text : Bytes) (style : Style) : Decode Value := fun fs =>
  match Node.value? tag text style with
  | none => none
  | some v =>
    if tag = some (Bytes.lit "!!binary") then (Base64.decode? text).map fun b => (.text b, fs)
    else some (v, fs)

/-- The value of a scalar as a field's type sees it: `none` when there is no value, and an inner
`none` when it is not of that type. -/
def scalarAs {α : Type} (doc : Document) (type : FieldType) (convert : Bytes → Value → Option α)
    (n : Node) : Decode (Option α) := do
  match ← target doc n with
  | .scalar tag text style line =>
    match ← scalarValue tag text style with
    | .null => return none
    | v =>
      match convert text v with
      | some a => return some a
      | none =>
        mismatch (.scalar tag text style line) type
        return none
  | .mapping tag entries line =>
    match duplicates (entries.map (·.1)) with
    | [] => mismatch (.mapping tag entries line) type
    | fs => fs.forM note
    return none
  | m =>
    mismatch m type
    return none

/-- A text: any value but null is the text that was written. -/
def text (doc : Document) : Node → Decode (Option Bytes) :=
  scalarAs doc .text fun written v =>
    match v with
    | .text s => some s
    | _ => some written

/-- The texts that also stand for truth values. -/
def boolWords : List (String × Bool) :=
  [("y", true), ("Y", true), ("yes", true), ("on", true), ("n", false), ("N", false), ("no", false),
    ("off", false)]

/-- A truth value. -/
def bool (doc : Document) : Node → Decode (Option Bool) :=
  scalarAs doc .bool fun _ v =>
    match v with
    | .bool b => some b
    | .text s => (boolWords.find? fun w => Bytes.lit w.1 == s).map (·.2)
    | _ => none

/-- An integer; a float is cut to one. -/
def int (doc : Document) : Node → Decode (Option Int) :=
  scalarAs doc .int fun _ v =>
    match v with
    | .int n => if n < Number.signedLimit then some n else none
    | .float x => x.toInt?
    | _ => none

/-- A duration, which is a text with units. -/
def duration (doc : Document) : Node → Decode (Option Int) :=
  scalarAs doc .duration fun _ v =>
    match v with
    | .text s => Number.Duration.parse? s
    | _ => none

/-- A list of texts; null is no list, and null items are left out. -/
def texts (doc : Document) (n : Node) : Decode (Option (Option (List Bytes))) := do
  match ← target doc n with
  | .sequence _ items _ => return some (some ((← items.mapM (text doc)).filterMap id))
  | .scalar tag written style line =>
    match ← scalarValue tag written style with
    | .null => return some none
    | _ =>
      mismatch (.scalar tag written style line) .texts
      return none
  | m =>
    let _ ← scalarAs doc .texts (fun _ _ => (none : Option Unit)) m
    return none

/-! ## Mappings -/

/-- The keys of a mapping as texts, for those that are scalars. -/
def keyNames (doc : Document) (entries : List (Node × Node)) : List Bytes :=
  entries.filterMap fun (k, _) =>
    match (target doc k).run [] with
    | some (.scalar tag text style _, _) =>
      match (scalarValue tag text style).run [] with
      | some (.text s, _) => some s
      | some (.merge, _) => some text
      | _ => none
    | _ => none

/-- How a structure reads the field of a name, if it has one. -/
abbrev Fields (σ : Type) := Bytes → Option (Node → σ → Decode σ)

/-- The nodes that a merge key brings in. -/
def mergeSources (n : Node) : List Node :=
  match n with
  | .sequence _ items _ => items
  | _ => [n]

/-- Reads the entries of a mapping in order, leaving out merge keys. `seen` holds the names that a
mapping which is merged in must not set; it grows with the names that it does set. -/
def entriesInto {σ : Type} (doc : Document) (type : FieldType) (fields : Fields σ) :
    List (Node × Node) → Option (List Bytes) → List Bytes → σ → Decode (σ × Option (List Bytes))
  | [], seen, _, s => return (s, seen)
  | (k, v) :: rest, seen, done, s => do
    if k.isMerge then entriesInto doc type fields rest seen done s
    else
      match ← text doc k with
      | none => entriesInto doc type fields rest seen done s
      | some name =>
        if (seen.getD []).contains name then entriesInto doc type fields rest seen done s
        else
          let seen := seen.map (name :: ·)
          match fields name with
          | none => entriesInto doc type fields rest seen done s
          | some field =>
            if done.contains name then
              note (.duplicateField k.line name type)
              entriesInto doc type fields rest seen done s
            else
              let s ← field v s
              entriesInto doc type fields rest seen (name :: done) s

mutual

/-- Reads a node into a structure. `active` holds the aliases that are being followed. -/
def structureInto {σ : Type} (doc : Document) (type : FieldType) (fields : Fields σ) :
    Nat → List Nat → Option (List Bytes) → Node → σ → Decode (σ × Option (List Bytes))
  | 0, _, _, _, _ => failure
  | fuel + 1, active, seen, n, s => do
    match n with
    | .reference _ _ id _ =>
      if active.contains id then failure
      structureInto doc type fields fuel (id :: active) seen (← target doc n) s
    | .mapping _ entries _ =>
      match duplicates (entries.map (·.1)) with
      | [] =>
        let (s, seen') ← entriesInto doc type fields entries seen [] s
        match (entries.filter (·.1.isMerge)).getLast? with
        | none => return (s, seen')
        | some (_, source) =>
          let (s, after) ← sourcesInto doc type fields fuel active
            (seen'.getD (keyNames doc entries)) (mergeSources source) s
          return (s, if seen.isSome then some after else none)
      | fs =>
        fs.forM note
        return (s, seen)
    | _ =>
      let _ ← scalarAs doc type (fun _ _ => (none : Option Unit)) n
      return (s, seen)

/-- Reads the mappings that are merged in, the first one winning. -/
def sourcesInto {σ : Type} (doc : Document) (type : FieldType) (fields : Fields σ) :
    Nat → List Nat → List Bytes → List Node → σ → Decode (σ × List Bytes)
  | 0, _, _, _, _ => failure
  | _ + 1, _, seen, [], s => return (s, seen)
  | fuel + 1, active, seen, n :: rest, s => do
    if (← target doc n).kind != .mapping then failure
    let (s, seen') ← structureInto doc type fields fuel active (some seen) n s
    sourcesInto doc type fields fuel active (seen'.getD seen) rest s

end

/-- Sets a part of a structure, if a value was read. -/
def setting {σ α : Type} (read : Node → Decode (Option α)) (set : σ → α → σ) :
    Node → σ → Decode σ :=
  fun n s => do
    match ← read n with
    | some a => return set s a
    | none => return s

/-- The fields of the watch settings. -/
def watchFields (doc : Document) : Fields Settings := fun name =>
  if name = Bytes.lit "debounce" then
    some (setting (duration doc) fun s d => { s with debounce := d })
  else none

/-- The fields of the log settings. -/
def loggingFields (doc : Document) : Fields Settings := fun name =>
  if name = Bytes.lit "quiet" then some (setting (bool doc) fun s b => { s with quiet := b })
  else if name = Bytes.lit "verbose" then some
    (setting (bool doc) fun s b => { s with verbose := b })
  else none

/-- The fields of the settings, each with its name. -/
def settingsFields (doc : Document) (fuel : Nat) :
    List (String × (Node → Settings → Decode Settings)) :=
  [("src_dir", setting (text doc) fun s v => { s with srcDir := v }),
    ("out_dir", setting (text doc) fun s v => { s with outDir := v }),
    ("extension", setting (text doc) fun s v => { s with extension := v }),
    ("out_extension", setting (text doc) fun s v => { s with outExtension := v }),
    ("runtime", setting (text doc) fun s v => { s with runtime := v }),
    ("container", setting (text doc) fun s v => { s with container := v }),
    ("hooks", setting (texts doc) fun s v => { s with hooks := v }),
    ("sanitize", setting (bool doc) fun s v => { s with sanitize := v }),
    ("workers", setting (int doc) fun s v => { s with workers := v }),
    ("dev", setting (bool doc) fun s v => { s with dev := v }),
    ("watch", fun n s => (·.1) <$> structureInto doc .watch (watchFields doc) fuel [] none n s),
    ("logging", fun n s => (·.1) <$> structureInto doc .logging (loggingFields doc) fuel
      [] none n s)]

/-- Reads a document into settings. -/
def document (doc : Document) (fuel : Nat) (s : Settings) : Decode Settings :=
  let fields : Fields Settings := fun name =>
    ((settingsFields doc fuel).find? fun f => Bytes.lit f.1 == name).map (·.2)
  (·.1) <$> structureInto doc .settings fields fuel [] none doc.root s

end Decode

end ComponentCompiler.Settings
