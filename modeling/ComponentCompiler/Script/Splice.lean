import ComponentCompiler.Bytes.Basic

/-!
# Splices

A splice inserts a text at an offset of some code. Applying a list of splices inserts each text at
its own offset of the code as it was; texts at one offset keep the order of the list.
-/

namespace ComponentCompiler.Script

/-- A text to insert at an offset. -/
structure Splice where
  offset : Nat
  text : Bytes
  deriving DecidableEq, Repr, Inhabited

/-- Inserts splices that stand in ascending order of offset. `code` is what is left of the code from
offset `pos` on. -/
def insertSorted (pos : Nat) (code : Bytes) : List Splice → Bytes
  | [] => code
  | s :: rest =>
    code.take (s.offset - pos) ++ s.text ++ insertSorted s.offset (code.drop (s.offset - pos)) rest

/-- The code with every splice inserted. -/
def applySplices (code : Bytes) (splices : List Splice) : Bytes :=
  insertSorted 0 code (splices.mergeSort fun a b => a.offset ≤ b.offset)

end ComponentCompiler.Script
