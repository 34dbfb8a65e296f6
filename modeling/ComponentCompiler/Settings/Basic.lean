import ComponentCompiler.Component.Options
import ComponentCompiler.Number.Duration
import ComponentCompiler.Path
import ComponentCompiler.Script.Identifier
import ComponentCompiler.Text.Blank
import ComponentCompiler.Text.Quoted

/-!
# Settings

The settings of a build: what to compile, where to write it, and how. `faults` lists everything that
is wrong with them.
-/

namespace ComponentCompiler

/-- The settings of a build. -/
structure Settings where
  /-- The directory of the settings file, against which relative directories are resolved. -/
  baseDir : Bytes := []
  /-- The directory that is searched when no path is given. -/
  srcDir : Bytes := Path.dot
  /-- The output root; when empty, output is written next to its source. -/
  outDir : Bytes := []
  extension : Bytes := Component.defaultExtension
  outExtension : Bytes := Component.defaultOutExtension
  runtime : Bytes := Component.defaultRuntime
  container : Bytes := Component.defaultContainer
  /-- The hooks; the default ones when not given. -/
  hooks : Option (List Bytes) := some Component.defaultHooks
  sanitize : Bool := false
  workers : Int := 0
  dev : Bool := false
  /-- The quiet period, in nanoseconds, before a change is compiled. -/
  debounce : Int := 100000000
  quiet : Bool := false
  verbose : Bool := false
  deriving DecidableEq, Repr, Inhabited

namespace Settings

/-- The compiler options that the settings describe. -/
def options (s : Settings) (logger : Option Component.Logger) : Component.Options where
  runtime := s.runtime
  container := s.container
  hooks := s.hooks
  sanitize := s.sanitize
  dev := s.dev
  verbose := s.verbose
  extension := s.extension
  outExtension := s.outExtension
  outDir := s.outDir
  workers := s.workers
  logger := logger

/-- What can be wrong with settings. -/
inductive Fault where
  | emptyRuntime
  | badExtension (extension : Bytes)
  | badOutExtension (extension : Bytes)
  | sameExtensions (extension : Bytes)
  | badContainer (tag : Bytes)
  | badHook (name : Bytes)
  | negativeWorkers (count : Int)
  | negativeDebounce (duration : Int)
  | quietAndVerbose
  deriving DecidableEq, Repr, Inhabited

/-- The message of a fault. -/
def Fault.message : Fault → Bytes
  | emptyRuntime => Bytes.lit "runtime must not be empty"
  | badExtension ext => Bytes.lit "extension " ++ Text.quoted ext ++
    Bytes.lit " must start with '.'"
  | badOutExtension ext =>
    Bytes.lit "out_extension " ++ Text.quoted ext ++ Bytes.lit " must start with '.'"
  | sameExtensions ext =>
    Bytes.lit "extension and out_extension must differ (both " ++ Text.quoted ext ++ Bytes.lit ")"
  | badContainer tag =>
    Bytes.lit "container " ++ Text.quoted tag ++ Bytes.lit " is not a valid tag name"
  | badHook name => Bytes.lit "hook " ++ Text.quoted name ++ Bytes.lit " is not a valid identifier"
  | negativeWorkers count => Bytes.lit "workers must be >= 0, got " ++ Bytes.ofInt count
  | negativeDebounce duration =>
    Bytes.lit "watch.debounce must be >= 0, got " ++ Number.Duration.text duration
  | quietAndVerbose => Bytes.lit "logging.quiet and logging.verbose are mutually exclusive"

/-- Whether a byte string is a lower-case element name such as `div` or `my-box`. -/
def isTagName (s : Bytes) : Bool :=
  match s with
  | [] => false
  | c :: rest =>
    Ascii.isLower c && rest.all fun c => Ascii.isLower c || Ascii.isDigit c || c == Ascii.dash

/-- Whether a byte string is a dot followed by something. -/
def isExtension (s : Bytes) : Bool := s.head? == some Ascii.dot && 2 ≤ s.length

/-- Everything that is wrong with settings. -/
def faults (s : Settings) : List Fault :=
  (if Text.trim s.runtime = [] then [.emptyRuntime] else []) ++
  (if isExtension s.extension then [] else [.badExtension s.extension]) ++
  (if isExtension s.outExtension then [] else [.badOutExtension s.outExtension]) ++
  (if s.extension = s.outExtension then [.sameExtensions s.extension] else []) ++
  (if isTagName s.container then [] else [.badContainer s.container]) ++
  (((s.hooks.getD []).filter fun h => !Script.isIdentifier h).map .badHook) ++
  (if s.workers < 0 then [.negativeWorkers s.workers] else []) ++
  (if s.debounce < 0 then [.negativeDebounce s.debounce] else []) ++
  (if s.quiet && s.verbose then [.quietAndVerbose] else [])

/-- The message of a non-empty list of faults, one on a line. -/
def faultsMessage (fs : List Fault) : Bytes :=
  Bytes.lit "invalid config: " ++ (Bytes.lit "\n").intercalate (fs.map Fault.message)

end Settings

end ComponentCompiler
