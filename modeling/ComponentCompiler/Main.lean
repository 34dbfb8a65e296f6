import ComponentCompiler.Cli.Run
import ComponentCompiler.Watch.Changes

/-!
# The program

The program reads the files that a run may need, runs the command line on them, and writes back what
changed. In watch mode it then looks at the files again and again.
-/

namespace ComponentCompiler.Main

/-- The bytes of a text. -/
def bytes (s : String) : Bytes := s.toUTF8.data.toList

/-- A path as text. -/
def path (p : Bytes) : String := (String.fromUTF8? (ByteArray.mk p.toArray)).getD ""

/-- Reads the entry at a path. Directories that are never searched are taken for empty. -/
partial def readEntry (p : String) : IO (Option Entry) := do
  try
    let real ← IO.FS.realPath p
    if ← real.isDir then
      let mut entries := []
      for e in ← real.readDir do
        let name := bytes e.fileName
        let entry ← if Component.isSkipped name && (← e.path.isDir) then pure (some (.directory []))
          else readEntry e.path.toString
        if let some entry := entry then entries := Entry.putNamed name entry entries
      return some (.directory entries)
    else return some (.file (← IO.FS.readBinFile p).data.toList)
  catch _ => return none

/-- Adds what is at a path to a tree. -/
def addPath (t : FileTree) (p : Bytes) : IO FileTree := do
  if t.isPresent p then return t
  let abs := Path.absolute t.cwd p
  match ← readEntry (path abs) with
  | some e => return t.put abs e
  | none => return t

/-- The paths that arguments may name: each of them, and what is behind its equals sign. -/
def candidates (args : List Bytes) : List Bytes :=
  (args.flatMap fun a => [a, (a.dropWhile (· != Ascii.equals)).tail]).filter (· != [])

/-- The tree of the working directory and of the paths that the arguments may name. -/
def readTree (args : List Bytes) : IO FileTree := do
  let cwd := bytes (← IO.currentDir).toString
  let t : FileTree := ⟨.directory [], Path.cleanComponents cwd⟩
  let t ← addPath t cwd
  (candidates args).foldlM addPath t

/-- An environment variable with its value, which is empty when it is not set. -/
def readVariable (name : Bytes) : IO (Bytes × Bytes) := do
  return (name, bytes ((← IO.getEnv (path name)).getD ""))

/-- The environment, as far as the settings file refers to it. -/
def readEnvironment (t : FileTree) (config : Bytes) (file : Bytes × Bytes) :
    IO Settings.Environment := do
  let env (vars : List (Bytes × Bytes)) : Settings.Environment :=
    fun name => (vars.lookup name).getD []
  let data :=
    (Settings.filePath t config (env [file])).toOption.join.bind fun p => (t.read p).toOption
  let vars ← (Settings.variableNames (data.getD [])).mapM readVariable
  return env (file :: vars)

/-- Writes back the files that a run changed. -/
def writeBack (before after : FileTree) : IO Unit := do
  for (p, content) in FileTree.writtenBelow before after [Ascii.slash] do
    let p := Ascii.slash :: p
    IO.FS.createDirAll (path (Path.dir p))
    IO.FS.writeBinFile (path p) (ByteArray.mk content.toArray)

/-- Prints what a session has printed, and gives the session with nothing printed. -/
def flush (s : Session) : IO Session := do
  (← IO.getStdout).write (ByteArray.mk s.output.toArray)
  (← IO.getStderr).write (ByteArray.mk s.errors.toArray)
  return { s with output := [], errors := [] }

/-- Watches until the program is stopped. -/
partial def watch (job : Job) (debounce : Nat) (args : List Bytes) (loop : Watch.Loop) :
  IO Unit := do
  IO.sleep (max 1 (debounce / 1000000)).toUInt32
  let before := loop.session.tree
  let now ← readTree args
  let signals := (Watch.changes before now).map Watch.Signal.event ++ [.timer]
  let loop := Watch.Loop.run job { loop with session := loop.session.withTree now } signals
  writeBack now loop.session.tree
  let session ← flush loop.session
  watch job debounce args { loop with session }

/-- Runs the program. -/
def run (args : List String) : IO UInt32 := do
  let args := args.map bytes
  let config := ((Cli.Arguments.parse {} args).toOption.map (·.config)).getD []
  let file ← readVariable Settings.fileVariable
  let t ← readTree (file.2 :: args)
  let env ← readEnvironment t config file
  let t ← match Settings.load t config env with
    | .ok (settings, _) => addPath t settings.srcDir
    | .error _ => pure t
  let (s, outcome) := Cli.run t env args false
  writeBack t s.tree
  let _ ← flush s
  match outcome with
  | .done => return 0
  | .failed fault =>
    let text := Bytes.lit "error: " ++ fault.message ++ Bytes.lit "\n"
    (← IO.getStderr).write (ByteArray.mk text.toArray)
    return 1
  | .watching job debounce loop =>
    watch job debounce.toNat args { loop with session :=
      { loop.session with output := [], errors := [] } }
    return 0

end ComponentCompiler.Main

/-- The command line of the compiler. -/
def main (args : List String) : IO UInt32 := ComponentCompiler.Main.run args
