import ComponentCompiler.Component.Build
import ComponentCompiler.Session.Basic

/-!
# Jobs

A job compiles the paths that were asked for and says what it did. A fault of a source is printed
with the lines around it; after that the job only knows that compilation failed.
-/

namespace ComponentCompiler

open Component (BuildFault Options Report)

/-- What is to be compiled, and how much is said about it. -/
structure Job where
  options : Options
  /-- The component name for a single source; empty to take it from the path. -/
  name : Bytes := []
  /-- Whether only errors are printed. -/
  quiet : Bool := false
  deriving DecidableEq, Repr, Inhabited

/-- Why a job fails. -/
inductive JobFault where
  /-- A path does not exist. -/
  | unreadable (path : Bytes) (fault : PathFault)
  /-- A source is at fault, which was printed. -/
  | compilation
  /-- The build failed for another reason. -/
  | build (fault : BuildFault)
  deriving DecidableEq, Repr, Inhabited

/-- The message of a fault. -/
def JobFault.message : JobFault → Bytes
  | unreadable path fault => Bytes.lit "reading " ++ path ++ Bytes.lit ": " ++ fault.message
  | compilation => Bytes.lit "compilation failed"
  | build fault => fault.message

namespace Job

/-- Writes a line to the log. -/
def log (j : Job) (s : Session) (text : Bytes) : Session := s.printError (j.options.logLine text)

/-- Prints a fault of a source with the lines around it; other faults are left to the caller. -/
def report (s : Session) (fault : BuildFault) : Session × JobFault :=
  match fault.diagnostic? with
  | none => (s, .build fault)
  | some d =>
    let s := s.printError (d.message ++ Bytes.lit "\n")
    let s :=
      if d.file = [] then s
      else
        match s.tree.read d.file with
        | .ok src => s.printError (d.context src)
        | .error _ => s
    (s, .compilation)

/-- Takes over the files and the log of a build, and reports its fault. -/
def settle {α : Type} (j : Job) (s : Session) (built : FileTree × Report BuildFault α) :
    Session × Except JobFault α :=
  let s := (s.withTree built.1).printError (j.options.log built.2.notices)
  match built.2.result with
  | .ok a => (s, .ok a)
  | .error fault => let (s, f) := report s fault; (s, .error f)

/-- Compiles one path, a source or a directory, and gives the number of components. -/
def buildPath (j : Job) (s : Session) (path : Bytes) (canceled : Bool) :
    Session × Except JobFault Nat :=
  match s.tree.stat "stat" path with
  | .error fault => (s, .error (.unreadable path fault))
  | .ok (.directory _) =>
    let (s, r) := j.settle s (Component.compileDirectory s.tree path j.options canceled)
    (s, r.map List.length)
  | .ok (.file _) =>
    let (s, r) := j.settle s (Component.compileFile s.tree path j.name j.options)
    (s, r.map fun _ => 1)

/-- Compiles paths in order up to the first fault, and gives the number of components. -/
def buildPaths (j : Job) (canceled : Bool) : Session → List Bytes → Session × Except JobFault Nat
  | s, [] => (s, .ok 0)
  | s, path :: paths =>
    match j.buildPath s path canceled with
    | (s, .error fault) => (s, .error fault)
    | (s, .ok n) =>
      let (s, r) := j.buildPaths canceled s paths
      (s, r.map (n + ·))

/-- Compiles every path and says how many components there were. -/
def buildAll (j : Job) (s : Session) (paths : List Bytes) (canceled : Bool) :
    Session × Except JobFault Unit :=
  match j.buildPaths canceled s paths with
  | (s, .error fault) => (s, .error fault)
  | (s, .ok count) =>
    let line := Bytes.lit "Compiled " ++ Bytes.ofNat count ++ Bytes.lit " component(s).\n"
    (if j.quiet then s else s.print line, .ok ())

/-- Compiles a changed source found under `root` and says where its code went. -/
def buildFile (j : Job) (s : Session) (root path : Bytes) : Session × Except JobFault Unit :=
  match j.settle s (Component.compileFileInRoot s.tree root path j.name j.options) with
  | (s, .error fault) => (s, .error fault)
  | (s, .ok out) =>
    let line := Bytes.lit "Compiled " ++ path ++ Bytes.lit " -> " ++ out ++ Bytes.lit "\n"
    (if j.quiet then s else s.print line, .ok ())

end Job

end ComponentCompiler
