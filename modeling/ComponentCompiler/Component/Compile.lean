import ComponentCompiler.Component.Report
import ComponentCompiler.Component.Weave
import ComponentCompiler.Markup.Forest
import ComponentCompiler.Template.Block
import ComponentCompiler.Template.Compile
import ComponentCompiler.Template.Safety

/-!
# Compiling components

A component is compiled in the order: sort the template blocks, reject unsafe markup if asked to,
compile the main block and then the sub-components, and weave the results into the behaviour script.
-/

namespace ComponentCompiler.Component

open Markup (Document)
open Template (Block Blocks Registry Reference)

/-- The blocks of a component, sanitized when the options say so. -/
def checkedBlocks (blocks : Blocks) (sanitize : Bool) : Except Diagnostic Unit :=
  if sanitize then
    match (blocks.main :: blocks.subs).findSome? fun b => Template.validate b.node b.key with
    | some d => .error d
    | none => .ok ()
  else .ok ()

/-- The notices on the references of a block: those whose content is ignored. -/
def referenceNotices (block : Bytes) (refs : List Reference) : List Notice :=
  (refs.filter (·.hasContent)).map fun r => .ignoredChildren block r.tag r.line

/-- The code of a block and the keys that it references. -/
def compileBlock (registry : Registry) (b : Block) : Report Diagnostic (Bytes × List Bytes) :=
  let outcome := Template.compile registry b.key b.node 1
  ⟨referenceNotices b.key outcome.references,
    outcome.result.map fun code => (code, outcome.references.map (·.key))⟩

/-- Compiles sub-components one after another. Each is registered with its code before the next is
compiled; the keys that they reference come with the registry. -/
def compileSubs (registry : Registry) : List Block → Report Diagnostic (Registry × List Bytes)
  | [] => .pure (registry, [])
  | b :: bs => do
    let first ← compileBlock registry b
    let others ← compileSubs (registry.set b.key first.1) bs
    return (others.1, first.2 ++ others.2)

/-- The warnings on blocks that no block references. -/
def unusedNotices (name : Bytes) (used : List Bytes) (subs : List Block) : List Notice :=
  (subs.filter fun b => !used.contains b.key).map fun b => .unusedBlock name b.key b.line

/-- The warnings on the number of scripts. -/
def scriptNotices (name : Bytes) : List Markup.Script → List Notice
  | [] => [.noScript name]
  | [_] => []
  | first :: rest => [.extraScripts name (rest.length + 1) first.line]

/-- The behaviour script of a component and its line, zero when the document has none. -/
def behavior (doc : Document) (name : Bytes) : Markup.Script :=
  doc.scripts.headD ⟨emptyBehavior name, 0⟩

/-- The diagnostic for a script without a usable constructor. A line inside the script is counted
from the line of the script element, and without one the script's own line is given. -/
def constructorDiagnostic (name : Bytes) (script : Markup.Script) :
    Script.ConstructorFault → Diagnostic
  | .absent =>
    { fault := .missingConstructorAnchor
      block := name
      line := script.line
      detail := Bytes.lit "no function declares the parameters (props, el)"
      hints := [Bytes.lit
        "the behavior block must define: export default function Name(props, el) { ... }"] }
  | .unclosed function params opening =>
    let line := (lineAt script.text opening : Int)
    { fault := .missingConstructorAnchor
      block := name
      line := if 0 < script.line then line + (script.line - 1) else line
      detail :=
        Bytes.lit "body of function " ++ function ++ params ++ Bytes.lit " is never closed" }

/-- Compiles a document into the code of a module. `name` is the component's name. -/
def compileDocument (doc : Document) (name : Bytes) (options : Options) :
    Report Diagnostic Bytes := do
  let opts := options.withDefaults
  let blocks ← Report.ofExcept (Template.classify doc.templates name opts.container)
  Report.notes [.templateBlocks name blocks.keys]
  Report.ofExcept (checkedBlocks blocks opts.sanitize)
  let registry := blocks.subs.foldl (fun r b => r.set b.key []) ({} : Registry)
  let main ← compileBlock registry blocks.main
  let subs ← compileSubs registry blocks.subs
  Report.notes (unusedNotices name (main.2 ++ subs.2) blocks.subs)
  Report.notes (doc.others.map fun n => .ignoredElement name n.tag n.line)
  Report.notes (scriptNotices name doc.scripts)
  let script := behavior doc name
  let code ← Report.ofExcept <|
    (weave script.text main.1 subs.1 opts.activeHooks).mapError (constructorDiagnostic name script)
  return importLine opts.runtime ++ code

/-- A component source: its bytes, and the failure that ended reading it, if one did. -/
structure Source where
  bytes : Bytes
  failure : Option Bytes := none
  deriving DecidableEq, Repr, Inhabited

/-- A source that could not be read to its end. -/
structure ReadFault where
  /-- The line that was reached. -/
  line : Int
  cause : Bytes
  deriving DecidableEq, Repr, Inhabited

/-- The message of a read fault. -/
def ReadFault.message (f : ReadFault) : Bytes :=
  Bytes.lit "tokenizing markup at line " ++ Bytes.ofInt f.line ++ Bytes.lit ": " ++ f.cause

/-- The top-level nodes of a source. -/
def Source.parse (s : Source) : Except ReadFault (List Markup.Node) :=
  match s.failure with
  | none => .ok (Markup.parse s.bytes)
  | some cause => .error ⟨Markup.endLine (Markup.lex s.bytes), cause⟩

/-- Why a component source gives no code. -/
inductive SourceFault where
  | unreadable (name : Bytes) (fault : ReadFault)
  | invalid (diagnostic : Diagnostic)
  deriving DecidableEq, Repr, Inhabited

/-- The message of a source fault. -/
def SourceFault.message : SourceFault → Bytes
  | unreadable name fault =>
    Bytes.lit "failed to parse component " ++ name ++ Bytes.lit ": " ++ fault.message
  | invalid d => d.message

/-- Compiles a component source. -/
def compileSource (source : Source) (name : Bytes) (options : Options) : Report SourceFault Bytes :=
  match source.parse with
  | .error fault => .fail (.unreadable name fault)
  | .ok nodes =>
    (compileDocument (Document.ofNodes nodes) name options).mapError .invalid

end ComponentCompiler.Component
