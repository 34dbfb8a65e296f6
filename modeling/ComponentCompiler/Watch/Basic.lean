import ComponentCompiler.Session.Job

/-!
# Watching sources

A watcher knows the directories that it was asked to watch and collects the sources that changed
there. When files were asked for, only those count.
-/

namespace ComponentCompiler

/-- A change of a file or a directory, which is named by its absolute path. -/
structure Event where
  path : Bytes
  /-- Whether it was created. -/
  created : Bool := false
  /-- Whether it was written. -/
  written : Bool := false
  deriving DecidableEq, Repr, Inhabited

/-- The state of a watcher. -/
structure Watcher where
  /-- The directories that were asked for, in order. -/
  roots : List Bytes := []
  /-- The files that were asked for; if there are any, only these are compiled. -/
  files : List Bytes := []
  /-- The directories that are watched. -/
  watched : List Bytes := []
  /-- The sources that changed and are not compiled yet. -/
  pending : List Bytes := []
  deriving DecidableEq, Repr, Inhabited

namespace Watcher

/-- Watches a directory and those below it. -/
def watchDirectory (w : Watcher) (t : FileTree) (root : Bytes) : Watcher :=
  { w with watched := w.watched ++
      (Component.watchedDirectories t root).filter fun d => !w.watched.contains d }

/-- Adds a path that was asked for: a directory, or a file, whose directory is then watched. -/
def addPath (w : Watcher) (t : FileTree) (path : Bytes) : Except PathFault Watcher :=
  let abs := Path.absolute t.cwd path
  (t.stat "stat" abs).map fun e =>
    let (w, root) :=
      if e.isDirectory then (w, abs)
      else ({ w with files := if w.files.contains abs then w.files else w.files ++ [abs] },
        Path.dir abs)
    let w := w.watchDirectory t root
    { w with roots := w.roots ++ [root] }

/-- A watcher for paths. -/
def start (t : FileTree) (paths : List Bytes) : Except PathFault Watcher :=
  paths.foldlM (fun w path => w.addPath t path) {}

/-- Takes in an event, and gives whether a source is due to be compiled. A new
directory is watched. -/
def queue (w : Watcher) (t : FileTree) (extension : Bytes) (e : Event) : Watcher × Bool :=
  if !e.written && !e.created then (w, false)
  else if e.created && t.isDirectory e.path then (w.watchDirectory t e.path, false)
  else if !e.path.endsWith extension then (w, false)
  else if !w.files.isEmpty && !w.files.contains e.path then (w, false)
  else ({ w with pending :=
    if w.pending.contains e.path then w.pending else w.pending ++ [e.path] }, true)

/-- The watched root of a path: the shortest one that holds it and is shorter than its directory,
else its directory. -/
def rootOf (w : Watcher) (path : Bytes) : Bytes :=
  w.roots.foldl (fun best root =>
    match Path.relative? root path with
    | some rel =>
      if !rel.startsWith Path.dotDot && root.length < best.length then root else best
    | none => best) (Path.dir path)

/-- Compiles a changed source, unless it is gone. Faults are printed or logged. -/
def rebuild (w : Watcher) (j : Job) (s : Session) (path : Bytes) : Session :=
  match s.tree.entry path with
  | .error .missing => s
  | _ =>
    match j.buildFile s (w.rootOf path) path with
    | (s, .ok ()) => s
    | (s, .error .compilation) => s
    | (s, .error fault) => j.log s fault.message

/-- Compiles every pending source, in byte order. -/
def flush (w : Watcher) (j : Job) (s : Session) : Watcher × Session :=
  ({ w with pending := [] }, (Bytes.sort w.pending).foldl (w.rebuild j) s)

end Watcher

end ComponentCompiler
