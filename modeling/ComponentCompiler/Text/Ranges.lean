/-!
# Tables of code points

A class of characters is a list of closed ranges of code points. A one-to-one case mapping is a list
of runs, each moving every `step`-th code point of a range by one distance.
-/

namespace ComponentCompiler.Text

/-- Whether `n` lies in one of the closed ranges of a table. -/
def inRanges (table : List (Nat × Nat)) (n : Nat) : Bool :=
  table.any fun r => r.1 ≤ n && n ≤ r.2

/-- Code points `first`, `first + step`, ..., `last`, each mapped to the one `shift` further on. -/
structure CaseRun where
  first : Nat
  last : Nat
  step : Nat
  shift : Int

/-- Whether a run maps `n`. -/
def CaseRun.covers (r : CaseRun) (n : Nat) : Bool :=
  r.first ≤ n && n ≤ r.last && (n - r.first) % r.step == 0

/-- The image of `n` under a case mapping; a code point that no run covers is its own image. -/
def mapCode (table : List CaseRun) (n : Nat) : Nat :=
  match table.find? (·.covers n) with
  | some r => (n + r.shift).toNat
  | none => n

end ComponentCompiler.Text
