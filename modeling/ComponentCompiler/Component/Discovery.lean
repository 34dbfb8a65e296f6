import ComponentCompiler.FileTree

/-!
# Finding component sources

Sources are searched below a root directory. Hidden directories and those that hold dependencies or
test data are skipped; the root's own name is no reason to skip it. Paths come in the order of their
components.
-/

namespace ComponentCompiler.Component

/-- The directories that are never searched, hidden ones apart. -/
def skippedDirectories : List Bytes := [Bytes.lit "node_modules", Bytes.lit "testdata"]

/-- Whether a name is hidden. -/
def isHidden (name : Bytes) : Bool := name.head? == some Ascii.dot

/-- Whether a directory of this name is skipped. -/
def isSkipped (name : Bytes) : Bool := isHidden name || skippedDirectories.contains name

/-- Whether an entry met on a walk is a source. -/
def isSource (ext : Bytes) (v : Entry.Visit) : Bool := !v.entry.isDirectory && v.name.endsWith ext

/-- The component sources at a root, which may itself be a source. -/
def discover (t : FileTree) (root ext : Bytes) : Except PathFault (List Bytes) :=
  (t.stat "lstat" root).map fun
    | .file _ => if (Path.base root).endsWith ext then [root] else []
    | .directory es =>
      ((Entry.walk (fun name => !isSkipped name) root es).filter (isSource ext)).map (·.path)

/-- The directories to watch at a root: itself and all below that are not hidden; none if it does
not exist. -/
def watchedDirectories (t : FileTree) (root : Bytes) : List Bytes :=
  match t.entry root with
  | .ok (.directory es) =>
    root :: ((Entry.walk (fun name => !isHidden name) root es).filter (·.entry.isDirectory)).map
      (·.path)
  | _ => []

end ComponentCompiler.Component
