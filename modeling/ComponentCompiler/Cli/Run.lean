import ComponentCompiler.Cli.Flag
import ComponentCompiler.Settings.Load
import ComponentCompiler.Watch.Loop

/-!
# Running the command line

A run reads the flags, loads the settings and lets the flags override them, and compiles the paths
that were given, or the source directory of the settings. In watch mode it goes on with the watch
loop even if sources were at fault.
-/

namespace ComponentCompiler.Cli

/-- The version of the tool. -/
def versionText : Bytes := Bytes.lit "vcc version 0.1.0-dev\n"

/-- The lines of the help text. -/
def helpLines : List String :=
  ["vcc - single-file component compiler",
    "",
    "Usage:",
    "  vcc [options] [path ...]",
    "",
    "Paths may be .vc files or directories, which are searched recursively.",
    "With no path, src_dir from the config is compiled.",
    "",
    "Options:",
    "  -config PATH     Path to config file (default: auto-detect)",
    "  -out DIR         Output directory (default: next to each source)",
    "  -runtime PATH    Import path of the vdom runtime (default: ../vdom.js)",
    "  -name NAME       Component name, when compiling a single file",
    "  -dev             Development mode (warnings)",
    "  -sanitize        Reject unsafe markup in templates",
    "  -watch           Recompile when sources change",
    "  -v               Print every compiled file",
    "  -q               Only print errors",
    "  -version         Show version",
    "  -help            Show this help",
    "",
    "Config Resolution:",
    "  1. -config flag",
    "  2. VCC_CONFIG environment variable",
    "  3. ./vcc.yaml",
    "  4. built-in defaults",
    "",
    "Examples:",
    "  vcc                           Compile src_dir",
    "  vcc components/Counter.vc     Compile one component",
    "  vcc -out dist -watch src      Compile src into dist and keep watching",
    "",
    ""]

/-- The help text. -/
def helpText : Bytes := (Bytes.lit "\n").intercalate (helpLines.map Bytes.lit)

/-- Why a run fails. -/
inductive Fault where
  | flags (fault : FlagFault)
  /-- The settings cannot be loaded. -/
  | settings (fault : Settings.LoadFault)
  /-- The settings do not hold after the flags have overridden them. -/
  | overrides (faults : List Settings.Fault)
  /-- A component name was given for several paths. -/
  | nameNeedsOnePath
  /-- A component name was given for a directory. -/
  | nameNeedsFile (path : Bytes)
  | job (fault : JobFault)
  /-- A path cannot be watched. -/
  | watcher (fault : PathFault)
  deriving DecidableEq, Repr, Inhabited

/-- The message of a fault. -/
def Fault.message : Fault → Bytes
  | flags fault => fault.message
  | settings fault => Bytes.lit "loading config: " ++ fault.message
  | overrides faults => Bytes.lit "config validation: " ++ Settings.faultsMessage faults
  | nameNeedsOnePath => Bytes.lit "-name requires exactly one source file"
  | nameNeedsFile path =>
    Bytes.lit "-name requires a source file, " ++ path ++ Bytes.lit " is a directory"
  | job fault => fault.message
  | watcher fault => Bytes.lit "starting watcher: " ++ fault.message

/-- How a run ends. -/
inductive Outcome where
  | done
  | failed (fault : Fault)
  /-- The run goes on with the watch loop; the quiet period is in nanoseconds. -/
  | watching (job : Job) (debounce : Int) (loop : Watch.Loop)
  deriving Repr, Inhabited

namespace Arguments

/-- The settings with the flags in place of what they override. The last of the two output switches
wins over the settings. -/
def override (a : Arguments) (s : Settings) : Settings :=
  let s := { s with
    outDir := Component.orDefault a.out s.outDir
    runtime := Component.orDefault a.runtime s.runtime
    dev := s.dev || a.dev
    sanitize := s.sanitize || a.sanitize }
  let s := if a.verbose then { s with verbose := true, quiet := false } else s
  if a.quiet then { s with quiet := true, verbose := false } else s

/-- The paths to compile. -/
def sources (a : Arguments) (s : Settings) : List Bytes :=
  if a.paths.isEmpty then [s.srcDir] else a.paths

/-- What is wrong with the component name that was given, if anything. -/
def nameFault? (a : Arguments) (t : FileTree) (paths : List Bytes) : Option Fault :=
  if a.name = [] then none
  else
    match paths with
    | [path] => if t.isDirectory path then some (.nameNeedsFile path) else none
    | _ => some .nameNeedsOnePath

/-- The job that the flags and the settings describe. A quiet job has no log. -/
def job (a : Arguments) (s : Settings) : Job where
  options := s.options (if s.quiet then none else some ⟨Bytes.lit "vcc: "⟩)
  name := a.name
  quiet := s.quiet

end Arguments

/-- Goes on to watch after the first build, unless that failed for another reason
than its sources. -/
def watchAfter (j : Job) (s : Session) (paths : List Bytes) (debounce : Int)
    (built : Except JobFault Unit) : Session × Outcome :=
  match built with
  | .error (.unreadable path fault) => (s, .failed (.job (.unreadable path fault)))
  | .error (.build fault) => (s, .failed (.job (.build fault)))
  | _ =>
    match Watcher.start s.tree paths with
    | .error fault => (s, .failed (.watcher fault))
    | .ok w => let l := Watch.begin j w s; (l.session, .watching j debounce l)

/-- Builds what the flags and the settings ask for. -/
def build (a : Arguments) (s : Session) (settings : Settings) (file : Bytes) (canceled : Bool) :
    Session × Outcome :=
  let paths := a.sources settings
  match a.nameFault? s.tree paths with
  | some fault => (s, .failed fault)
  | none =>
    let j := a.job settings
    let s := if file = [] then s else j.log s (Bytes.lit "using config " ++ file)
    let (s, built) := j.buildAll s paths canceled
    if a.watch then watchAfter j s paths settings.debounce built
    else
      match built with
      | .ok () => (s, .done)
      | .error fault => (s, .failed (.job fault))

/-- Runs a command line on a tree of files. A run that is already canceled compiles
no directories. -/
def run (t : FileTree) (env : Settings.Environment) (args : List Bytes) (canceled : Bool) :
    Session × Outcome :=
  let s : Session := { tree := t }
  match Arguments.parse {} args with
  | .error fault => (s.printError fault.report, .failed (.flags fault))
  | .ok a =>
    if a.help then (s.print helpText, .done)
    else if a.version then (s.print versionText, .done)
    else
      match Settings.load t a.config env with
      | .error fault => (s, .failed (.settings fault))
      | .ok (settings, file) =>
        let settings := a.override settings
        match settings.faults with
        | [] => build a s settings file canceled
        | faults => (s, .failed (.overrides faults))

end ComponentCompiler.Cli
