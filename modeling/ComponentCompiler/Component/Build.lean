import ComponentCompiler.Component.Compile
import ComponentCompiler.Component.Discovery
import ComponentCompiler.Component.Naming

/-!
# Building files

A build reads component sources from a file tree and writes their code back to it. A source that
fails leaves the tree as it was, and in a directory it stops the sources after it.
-/

namespace ComponentCompiler.Component

/-- Why a build fails. -/
inductive BuildFault where
  /-- A source path gives no component name. -/
  | invalidName (name path : Bytes)
  /-- A source cannot be read. -/
  | unreadable (path : Bytes) (fault : PathFault)
  /-- A source gives no code. -/
  | source (fault : SourceFault)
  /-- The output directory cannot be made. -/
  | outputDirectory (fault : PathFault)
  /-- The output file cannot be written. -/
  | outputFile (path : Bytes) (fault : PathFault)
  /-- The root cannot be searched. -/
  | discovery (fault : PathFault)
  /-- The build was canceled. -/
  | canceled
  deriving DecidableEq, Repr, Inhabited

namespace BuildFault

/-- The message of a build fault. -/
def message : BuildFault → Bytes
  | invalidName name path =>
    Bytes.lit "component name " ++ Text.quoted name ++ Bytes.lit " derived from " ++ path ++
      Bytes.lit " is not a valid identifier"
  | unreadable path fault =>
    Bytes.lit "failed to read component " ++ path ++ Bytes.lit ": " ++ fault.message
  | source fault => fault.message
  | outputDirectory fault => Bytes.lit "failed to create output directory: " ++ fault.message
  | outputFile path fault =>
    Bytes.lit "failed to write generated file " ++ path ++ Bytes.lit ": " ++ fault.message
  | discovery fault => Bytes.lit "failed to discover components: " ++ fault.message
  | canceled => Bytes.lit "context canceled"

/-- The diagnostic of a build fault, if the source is at fault. -/
def diagnostic? : BuildFault → Option Diagnostic
  | source (.invalid d) => some d
  | _ => none

end BuildFault

/-- The fault with the file of its diagnostic set. -/
def SourceFault.withFile (file : Bytes) : SourceFault → SourceFault
  | invalid d => .invalid (d.withFile file)
  | fault => fault

/-- The name to use for a source: the one given, else the one that its path gives. -/
def nameFor (path name : Bytes) : Except BuildFault Bytes :=
  if name = [] then (componentName path).mapError fun n => .invalidName n path else .ok name

/-- The code of a source file and where it is to be written. -/
structure Generated where
  code : Bytes
  output : Bytes
  deriving DecidableEq, Repr, Inhabited

/-- Compiles a source file found under `root`. The tree is only read. -/
def generate (t : FileTree) (root path name : Bytes) (opts : Options) :
    Report BuildFault Generated := do
  let name ← Report.ofExcept (nameFor path name)
  let src ← Report.ofExcept ((t.read path).mapError (.unreadable path))
  let code ← (compileSource { bytes := src } name opts).mapError fun f => .source (f.withFile path)
  return ⟨code, outputPath root path name opts⟩

/-- Writes generated code, making its directory if need be. The tree keeps a directory that was made
even if the file cannot be written. -/
def writeGenerated (t : FileTree) (g : Generated) : FileTree × Except BuildFault Unit :=
  match t.makeDirectories (Path.dir g.output) with
  | .error fault => (t, .error (.outputDirectory fault))
  | .ok t =>
    match t.write g.output g.code with
    | .error fault => (t, .error (.outputFile g.output fault))
    | .ok t => (t, .ok ())

/-- Compiles a source file found under `root` and writes its code. The result is the output path. -/
def compileFileInRoot (t : FileTree) (root path name : Bytes) (options : Options) :
    FileTree × Report BuildFault Bytes :=
  let r := generate t root path name options.withDefaults
  match r.result with
  | .error fault => (t, ⟨r.notices, .error fault⟩)
  | .ok g =>
    match writeGenerated t g with
    | (t, .error fault) => (t, ⟨r.notices, .error fault⟩)
    | (t, .ok ()) => (t, ⟨r.notices ++ [.compiled path g.output], .ok g.output⟩)

/-- Compiles a single source file and writes its code. -/
def compileFile (t : FileTree) (path name : Bytes) (options : Options) :
    FileTree × Report BuildFault Bytes :=
  compileFileInRoot t (Path.dir path) path name options

/-- Compiles sources in the order given, stopping at the first failure. The results are the output
paths in that order. -/
def compileInOrder (root : Bytes) (options : Options) :
    FileTree → List Bytes → FileTree × Report BuildFault (List Bytes)
  | t, [] => (t, .pure [])
  | t, path :: paths =>
    let (t, first) := compileFileInRoot t root path [] options
    match first.result with
    | .error fault => (t, ⟨first.notices, .error fault⟩)
    | .ok output =>
      let (t, others) := compileInOrder root options t paths
      (t, ⟨first.notices ++ others.notices, others.result.map (output :: ·)⟩)

/-- Compiles every source below a root and writes their code. The results are the output paths in
byte order. A build that is already canceled compiles nothing, and fails if there was something to
compile. -/
def compileDirectory (t : FileTree) (root : Bytes) (options : Options) (canceled : Bool) :
    FileTree × Report BuildFault (List Bytes) :=
  let opts := options.withDefaults
  let root := Path.absolute t.cwd root
  match discover t root opts.extension with
  | .error fault => (t, .fail (.discovery fault))
  | .ok sources =>
    let found := Notice.discovered sources.length root
    if canceled && !sources.isEmpty then (t, ⟨[found], .error .canceled⟩)
    else
      let (t, r) := compileInOrder root opts t sources
      (t, ⟨found :: r.notices, r.result.map Bytes.sort⟩)

end ComponentCompiler.Component
