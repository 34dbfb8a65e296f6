import ComponentCompiler.Text.Case.Simple
import ComponentCompiler.Text.Case.Full

/-!
# The registry of sub-components

The registry maps block keys to compiled expressions. Keys that differ only in case are one key,
since markup folds the case of tags; each entry keeps the spelling it was first given, and entries
keep the order in which they were first given. An index beside the entries finds each by its
lower-cased key.
-/

namespace ComponentCompiler.Template

/-- A sub-component: the key of its block and its compiled expression. -/
structure Entry where
  key : Bytes
  expr : Bytes
  deriving DecidableEq, Repr, Inhabited

/-- Sub-components in the order of their first registration. -/
structure Registry where
  entries : List Entry := []
  /-- The position of each entry, by its lower-cased key. -/
  index : List (Bytes × Nat) := []
  deriving DecidableEq, Repr, Inhabited

namespace Registry

/-- Registers `key`, or replaces its expression. -/
def set (r : Registry) (key expr : Bytes) : Registry :=
  match r.index.lookup (Text.toLower key) with
  | some i => { r with entries := r.entries.modify i ({ · with expr }) }
  | none =>
    { entries := r.entries ++ [⟨key, expr⟩]
      index := (Text.toLower key, r.entries.length) :: r.index }

/-- The registry of the given keys, with no expressions yet. -/
def ofKeys (keys : List Bytes) : Registry := keys.foldl (fun r key => r.set key []) {}

/-- The key under which a tag is registered. -/
def lookup? (r : Registry) (tag : Bytes) : Option Bytes :=
  if r.entries.isEmpty then none
  else
    match r.index.lookup (Text.toLower (Text.capitalize tag)) with
    | some i => (r.entries[i]?).map (·.key)
    | none => none

/-- The number of sub-components. -/
def size (r : Registry) : Nat := r.entries.length

end Registry

end ComponentCompiler.Template
