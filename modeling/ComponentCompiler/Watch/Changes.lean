import ComponentCompiler.Watch.Basic

/-!
# Events from comparing trees

Where the system reports no events, they are found by comparing the files before and after: a
directory that is new was created, and a file that is new or has other content was written.
-/

namespace ComponentCompiler.Watch

/-- The directories of a tree. -/
def directories (t : FileTree) : List Bytes :=
  ((t.root.descendants (fun _ => true) [Ascii.slash]).filter (·.entry.isDirectory)).map (·.path)

/-- The events that lead from one tree to another, those of directories first. -/
def changes (before after : FileTree) : List Event :=
  let old := directories before
  ((directories after).filter fun d => !old.contains d).map
    (fun d => { path := d, created := true }) ++
    (FileTree.writtenBelow before after [Ascii.slash]).map fun f =>
      { path := Ascii.slash :: f.1, created := true, written := true }

end ComponentCompiler.Watch
