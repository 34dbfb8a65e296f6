import ComponentCompiler.Proofs.Compilations
import ComponentCompiler.Watch.Loop
import Mathlib

/-!
# What a watcher covers of the first build

Every source that the first build compiled lies in a watched directory. If all paths that were asked
for are directories, each of them is due when it is written. As soon as one path is a file, only the
files that were asked for are, so sources that were found below a directory are compiled once and
then left alone.
-/

namespace ComponentCompiler.Watcher

variable {w w' w'' : Watcher}

/-! ## What the loop keeps -/

/-- `w'` was asked for the same paths as `w` and watches at least as many directories. -/
structure Keeps (w w' : Watcher) : Prop where
  roots : w'.roots = w.roots
  files : w'.files = w.files
  watched : w.watched ⊆ w'.watched

theorem Keeps.refl (w : Watcher) : Keeps w w := ⟨rfl, rfl, List.Subset.refl _⟩

theorem Keeps.trans (h : Keeps w w') (h' : Keeps w' w'') : Keeps w w'' :=
  ⟨h'.roots.trans h.roots, h'.files.trans h.files, List.Subset.trans h.watched h'.watched⟩

theorem keeps_watchDirectory (w : Watcher) (t : FileTree) (root : Bytes) :
    Keeps w (w.watchDirectory t root) :=
  ⟨rfl, rfl, List.subset_append_left _ _⟩

theorem keeps_queue (w : Watcher) (t : FileTree) (ext : Bytes) (e : Event) :
    Keeps w (w.queue t ext e).1 := by
  unfold queue
  split
  · exact .refl w
  · split
    · exact keeps_watchDirectory w t e.path
    · split
      · exact .refl w
      · split
        · exact .refl w
        · exact ⟨rfl, rfl, List.Subset.refl _⟩

theorem keeps_flush (w : Watcher) (j : Job) (s : Session) : Keeps w (w.flush j s).1 :=
  ⟨rfl, rfl, List.Subset.refl _⟩

end ComponentCompiler.Watcher

namespace ComponentCompiler.Watch.Loop

open Watcher (Keeps)

theorem keeps_step (j : Job) (l : Loop) (signal : Signal) :
    Keeps l.watcher (l.step j signal).watcher := by
  cases signal with
  | event e => exact l.watcher.keeps_queue _ _ e
  | failure text => exact .refl _
  | timer =>
      rw [step]
      split
      · exact l.watcher.keeps_flush j l.session
      · exact .refl _

/-- The loop after a list of signals, each of which finds the files that are given with it: others
change files while the loop waits. -/
def runAmid (j : Job) (l : Loop) (steps : List (FileTree × Signal)) : Loop :=
  steps.foldl (fun l x => { l with session := l.session.withTree x.1 }.step j x.2) l

/-- The loop alone changes files as if others had left them to it. -/
theorem exists_runAmid_eq_run (j : Job) (l : Loop) (signals : List Signal) :
    ∃ steps, steps.map (·.2) = signals ∧ l.runAmid j steps = l.run j signals := by
  induction signals generalizing l with
  | nil => exact ⟨[], rfl, rfl⟩
  | cons signal signals ih =>
      obtain ⟨steps, hsteps, hrun⟩ := ih (l.step j signal)
      exact ⟨(l.session.tree, signal) :: steps, by rw [List.map_cons, hsteps], hrun⟩

theorem keeps_runAmid (j : Job) (l : Loop) (steps : List (FileTree × Signal)) :
    Keeps l.watcher (l.runAmid j steps).watcher := by
  induction steps generalizing l with
  | nil => exact .refl _
  | cons x steps ih =>
      have hstep := keeps_step j { l with session := l.session.withTree x.1 } x.2
      exact hstep.trans (ih _)

end ComponentCompiler.Watch.Loop

namespace ComponentCompiler.Watcher

open Component (Compilation)
open Watch (Signal)

variable {j : Job} {s s' : Session} {built : Except JobFault Unit} {t : FileTree}
  {paths : List Bytes}
  {canceled : Bool} {c : Compilation} {w : Watcher} {p ext : Bytes}

/-! ## Compiled sources that are due -/

/-- A source, and another one in a directory. -/
def mixedTree : FileTree where
  root := .directory [(Bytes.lit "w", .directory [
    (Bytes.lit "A.vc", .file (Bytes.lit "<template a></template>")),
    (Bytes.lit "lib", .directory [
      (Bytes.lit "B.vc", .file (Bytes.lit "<template b></template>"))])])]
  workingDirectory := [Bytes.lit "w"]

theorem ordered_mixedTree : mixedTree.Ordered where
  rooted := ⟨by decide, by decide⟩
  entries := by
    refine .directory (by decide) (by decide) (List.forall_mem_singleton.mpr ?_)
    refine .directory (by decide) (by decide) (List.forall_mem_cons.mpr ⟨.file _, ?_⟩)
    refine List.forall_mem_singleton.mpr ?_
    exact .directory (by decide) (by decide) (List.forall_mem_singleton.mpr (.file _))

def mixedSession : Session where
  tree := mixedTree

def plainJob : Job where
  options := { extension := Bytes.lit ".vc" }

def directoryPaths : List Bytes := [Bytes.lit "."]

def directoryWatcher : Watcher where
  roots := [Bytes.lit "/w"]
  watched := [Bytes.lit "/w", Bytes.lit "/w/lib"]

end ComponentCompiler.Watcher
