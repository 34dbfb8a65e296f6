import ComponentCompiler.Path

/-!
# File trees

A file tree is what a build reads and writes: files with their contents and directories with their
entries in byte order of their names. Paths are resolved against a working directory, component by
component, so that every component in front of the last must be an existing directory.
-/

namespace ComponentCompiler

/-- A file or a directory. -/
inductive Entry where
  | file (content : Bytes)
  | directory (entries : List (Bytes × Entry))
  deriving Repr, Inhabited

namespace Entry

/-- Whether an entry is a directory. -/
def isDirectory : Entry → Bool
  | directory _ => true
  | file _ => false

/-- The entry at a list of components below another. -/
def get? : Entry → List Bytes → Option Entry
  | e, [] => some e
  | file _, _ :: _ => none
  | directory es, name :: names =>
    match es.lookup name with
    | some e => get? e names
    | none => none

/-- Directory entries with the entry `name` replaced, or inserted in its place. -/
def putNamed (name : Bytes) (e : Entry) : List (Bytes × Entry) → List (Bytes × Entry)
  | [] => [(name, e)]
  | (n, x) :: rest =>
    if n = name then (name, e) :: rest
    else if Bytes.lt name n then (name, e) :: (n, x) :: rest
    else (n, x) :: putNamed name e rest

/-- Puts an entry at a list of components, making the directories that are missing on the way. A
file on the way is left alone. -/
def put (new : Entry) : List Bytes → Entry → Entry
  | [], _ => new
  | _ :: _, file content => file content
  | name :: names, directory es =>
    directory (putNamed name (put new names ((es.lookup name).getD (directory []))) es)

/-- Removes the entry at a list of components. -/
def erase : List Bytes → Entry → Entry
  | [], e => e
  | _ :: _, file content => file content
  | [name], directory es => directory (es.filter fun e => e.1 != name)
  | name :: names, directory es =>
    match es.lookup name with
    | some e => directory (putNamed name (erase names e) es)
    | none => directory es

/-- An entry met on a walk, with its path. -/
structure Visit where
  path : Bytes
  name : Bytes
  entry : Entry
  deriving Repr, Inhabited

mutual

/-- The entries below an entry in the order of their components, each directory in front of what it
holds. `dir` is the path of the entry itself. A directory whose name fails `enter` is left out with
all that it holds. -/
def descendants (enter : Bytes → Bool) (dir : Bytes) : Entry → List Visit
  | file _ => []
  | directory es => walk enter dir es
termination_by structural e => e

/-- The entries of a list and below. -/
def walk (enter : Bytes → Bool) (dir : Bytes) : List (Bytes × Entry) → List Visit
  | [] => []
  | e :: es => visit enter dir e ++ walk enter dir es
termination_by structural es => es

/-- An entry with its name, and those below. -/
def visit (enter : Bytes → Bool) (dir : Bytes) : Bytes × Entry → List Visit
  | (name, e) =>
    if e.isDirectory && !enter name then []
    else ⟨Path.join [dir, name], name, e⟩ :: descendants enter (Path.join [dir, name]) e
termination_by structural p => p

end

end Entry

/-- Why a path gives no usable entry. -/
inductive FileFault where
  | missing
  | notDirectory
  | isDirectory
  deriving DecidableEq, Repr, Inhabited

/-- The wording of a file fault. -/
def FileFault.text : FileFault → Bytes
  | missing => Bytes.lit "no such file or directory"
  | notDirectory => Bytes.lit "not a directory"
  | isDirectory => Bytes.lit "is a directory"

/-- A file fault with the operation that met it and the path as it was given. -/
structure PathFault where
  operation : Bytes
  path : Bytes
  fault : FileFault
  deriving DecidableEq, Repr, Inhabited

/-- The message of a path fault. -/
def PathFault.message (f : PathFault) : Bytes :=
  f.operation ++ Bytes.lit " " ++ f.path ++ Bytes.lit ": " ++ f.fault.text

/-- A tree of files seen from a working directory, which is given by its components. -/
structure FileTree where
  root : Entry
  workingDirectory : List Bytes
  deriving Repr, Inhabited

namespace FileTree

/-- The working directory as an absolute path. -/
def cwd (t : FileTree) : Bytes := Path.ofComponents true t.workingDirectory

/-- Follows components from a directory, given by its own components, last first. A component other
than the last must lead to a directory. -/
def follow (root : Entry) : List Bytes → List Bytes → Except FileFault (List Bytes)
  | here, [] => .ok here
  | here, c :: cs =>
    match root.get? here.reverse with
    | some (.directory es) =>
      if c = [] ∨ c = Path.dot then follow root here cs
      else if c = Path.dotDot then follow root here.tail cs
      else if (es.lookup c).isSome then follow root (c :: here) cs
      else .error .missing
    | some (.file _) => .error .notDirectory
    | none => .error .missing

/-- The components, from the root, of an existing entry. -/
def resolve (t : FileTree) (path : Bytes) : Except FileFault (List Bytes) :=
  if path = [] then .error .missing
  else
    (follow t.root (if Path.isAbsolute path then [] else t.workingDirectory.reverse)
      (path.splitOn Ascii.slash)).map List.reverse

/-- The entry at a path. -/
def entry (t : FileTree) (path : Bytes) : Except FileFault Entry :=
  (t.resolve path).bind fun cs =>
    match t.root.get? cs with
    | some e => .ok e
    | none => .error .missing

/-- The entry at a path, as the operation `operation` asks for it. -/
def stat (t : FileTree) (operation : String) (path : Bytes) : Except PathFault Entry :=
  (t.entry path).mapError fun fault => ⟨Bytes.lit operation, path, fault⟩

/-- Whether a path leads to an existing entry. -/
def isPresent (t : FileTree) (path : Bytes) : Bool := (t.entry path).toOption.isSome

/-- Whether a path leads to a directory. -/
def isDirectory (t : FileTree) (path : Bytes) : Bool :=
  (t.entry path).toOption.any Entry.isDirectory

/-- The content of a file. -/
def read (t : FileTree) (path : Bytes) : Except PathFault Bytes :=
  (t.stat "open" path).bind fun
    | .file content => .ok content
    | .directory _ => .error ⟨Bytes.lit "read", path, .isDirectory⟩

/-- The components, from the root, that a cleaned path denotes. -/
def locate (t : FileTree) (path : Bytes) : List Bytes :=
  Path.cleanComponents (Path.absolute t.cwd path)

/-- The tree with an entry put at a path. -/
def put (t : FileTree) (path : Bytes) (e : Entry) : FileTree :=
  { t with root := Entry.put e (t.locate path) t.root }

/-- The tree without the entry at a path. -/
def erase (t : FileTree) (path : Bytes) : FileTree :=
  { t with root := Entry.erase (t.locate path) t.root }

/-- The non-empty beginnings of a list, shortest first. -/
def beginnings : List Bytes → List (List Bytes)
  | [] => []
  | c :: cs => [c] :: (beginnings cs).map (c :: ·)

/-- The directories on the way to a cleaned path, outermost first, and the path itself. -/
def ancestors (path : Bytes) : List Bytes :=
  (beginnings (Path.cleanComponents path)).map (Path.ofComponents (Path.isAbsolute path))

/-- Makes a directory and those on the way to it. A file on the way is an error. -/
def makeDirectories (t : FileTree) (path : Bytes) : Except PathFault FileTree :=
  match (ancestors path).find? fun p =>
      (t.entry p).toOption.any fun e => !e.isDirectory with
  | some p => .error ⟨Bytes.lit "mkdir", p, .notDirectory⟩
  | none => .ok (if t.isDirectory path then t else t.put path (.directory []))

/-- Writes a file whose directory exists. -/
def write (t : FileTree) (path content : Bytes) : Except PathFault FileTree :=
  if t.isDirectory path then .error ⟨Bytes.lit "open", path, .isDirectory⟩
  else .ok (t.put path (.file content))

/-! ## Comparing trees -/

/-- The files below a directory, with their paths relative to it. -/
def filesBelow (t : FileTree) (dir : Bytes) : List (Bytes × Bytes) :=
  match t.entry dir with
  | .ok e =>
    (e.descendants (fun _ => true) []).filterMap fun v =>
      match v.entry with
      | .file content => some (v.path, content)
      | .directory _ => none
  | .error _ => []

/-- The files below a directory that are new or other than in the tree `before`, in byte order of
their paths. -/
def writtenBelow (before t : FileTree) (dir : Bytes) : List (Bytes × Bytes) :=
  let old := before.filesBelow dir
  ((t.filesBelow dir).filter fun f => old.lookup f.1 != some f.2).mergeSort fun a b =>
    Bytes.le a.1 b.1

end FileTree

end ComponentCompiler
