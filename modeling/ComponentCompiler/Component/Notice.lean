import ComponentCompiler.Component.Options
import ComponentCompiler.Text.Quoted

/-!
# Notices

What a compilation has to say besides its result. Notices are collected whatever the options are;
the options only decide which of them the log shows. Progress is shown in verbose mode and warnings
in development mode.
-/

namespace ComponentCompiler.Component

/-- A notice of a compilation. -/
inductive Notice where
  /-- The template blocks of a component. -/
  | templateBlocks (name : Bytes) (keys : List Bytes)
  /-- A component source was compiled to a file. -/
  | compiled (source output : Bytes)
  /-- So many component sources were found. -/
  | discovered (count : Nat) (root : Bytes)
  /-- Children of a sub-component reference are ignored. -/
  | ignoredChildren (block tag : Bytes) (line : Int)
  /-- A sub-component is never referenced. -/
  | unusedBlock (name key : Bytes) (line : Int)
  /-- A top-level element is neither template nor script. -/
  | ignoredElement (name tag : Bytes) (line : Int)
  /-- There is no script. -/
  | noScript (name : Bytes)
  /-- There is more than one script. -/
  | extraScripts (name : Bytes) (count : Nat) (line : Int)
  deriving DecidableEq, Repr, Inhabited

namespace Notice

/-- Whether a notice is a warning rather than progress. -/
def isWarning : Notice → Bool
  | templateBlocks .. | compiled .. | discovered .. => false
  | _ => true

/-- What a notice says. -/
def body : Notice → Bytes
  | templateBlocks name keys =>
    name ++ Bytes.lit ": template blocks " ++ (Bytes.lit ", ").intercalate keys
  | compiled source output => Bytes.lit "Compiled " ++ source ++ Bytes.lit " -> " ++ output
  | discovered count root =>
    Bytes.lit "Discovered " ++ Bytes.ofNat count ++ Bytes.lit " component files in " ++ root ++
      Bytes.lit "."
  | ignoredChildren block tag line =>
    block ++ Bytes.lit ": line " ++ Bytes.ofInt line ++ Bytes.lit ": children of <" ++ tag ++
      Bytes.lit "> are ignored, sub-components take props only"
  | unusedBlock name key line =>
    name ++ Bytes.lit ": template block " ++ Text.quoted key ++ Bytes.lit " (line " ++
      Bytes.ofInt line ++ Bytes.lit ") is never used"
  | ignoredElement name tag line =>
    name ++ Bytes.lit ": top-level <" ++ tag ++ Bytes.lit "> (line " ++ Bytes.ofInt line ++
      Bytes.lit ") is ignored"
  | noScript name => name ++ Bytes.lit ": no <script> block, using an empty constructor"
  | extraScripts name count line =>
    name ++ Bytes.lit ": " ++ Bytes.ofNat count ++
      Bytes.lit " <script> blocks found, only the first (line " ++ Bytes.ofInt line ++
      Bytes.lit ") is used"

/-- The text of a notice in the log. -/
def text (n : Notice) : Bytes :=
  if n.isWarning then Bytes.lit "warning: " ++ n.body else n.body

end Notice

/-- A log line: the label and the text, ended by a newline unless the text already is. -/
def Logger.line (l : Logger) (text : Bytes) : Bytes :=
  let line := l.label ++ text
  if line.getLast? = some Ascii.newline then line else line ++ [Ascii.newline]

namespace Options

/-- Whether the log shows a notice. -/
def shows (o : Options) (n : Notice) : Bool := if n.isWarning then o.dev else o.verbose

/-- A text in the log, or nothing without a logger. -/
def logLine (o : Options) (text : Bytes) : Bytes := (o.logger.map (·.line text)).getD []

/-- The log of a list of notices. -/
def log (o : Options) (notices : List Notice) : Bytes :=
  (notices.filter o.shows).flatMap fun n => o.logLine n.text

end Options

end ComponentCompiler.Component
