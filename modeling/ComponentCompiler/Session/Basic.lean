import ComponentCompiler.FileTree

/-!
# Sessions

A session is what a run of the tool changes: the files, and what it has printed to its two outputs.
-/

namespace ComponentCompiler

/-- The files and what was printed so far. -/
structure Session where
  tree : FileTree
  /-- The standard output. -/
  output : Bytes := []
  /-- The error output, which also holds the log. -/
  errors : Bytes := []
  deriving Repr, Inhabited

namespace Session

/-- Prints to the standard output. -/
def print (s : Session) (text : Bytes) : Session := { s with output := s.output ++ text }

/-- Prints to the error output. -/
def printError (s : Session) (text : Bytes) : Session := { s with errors := s.errors ++ text }

/-- The session with other files. -/
def withTree (s : Session) (t : FileTree) : Session := { s with tree := t }

theorem tree_printError (s : Session) (text : Bytes) : (s.printError text).tree = s.tree := rfl

theorem printError_nil (s : Session) : s.printError [] = s := by
  rw [printError, List.append_nil]

theorem printError_printError (s : Session) (text text' : Bytes) :
    (s.printError text).printError text' = s.printError (text ++ text') := by
  rw [printError, printError, printError, List.append_assoc]

end Session

end ComponentCompiler
