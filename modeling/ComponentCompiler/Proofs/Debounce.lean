import ComponentCompiler.Proofs.ByteOrder
import ComponentCompiler.Proofs.FileBuild
import ComponentCompiler.Proofs.WatchCoverage
import Mathlib

/-!
# Changes that wait for the timer

The timer runs exactly while sources are pending, and what is pending are the paths of the events
that were taken in since sources were last compiled. When the timer fires, each of these paths that
is there is compiled once, in byte order and whether or not one before it was at fault, and nothing
is pending any more. This holds whatever others do to the files while the loop waits.
-/

namespace ComponentCompiler.Job

open Component (BuildFault Report)

variable {j : Job} {s : Session} {root p : Bytes}

/-! ## Building a file -/

theorem tree_buildFile (j : Job) (s : Session) (root p : Bytes) :
    (j.buildFile s root p).1.tree =
      (Component.compileFileInRoot s.tree root p j.name j.options).1 := by
  have htree := j.tree_settle s (Component.compileFileInRoot s.tree root p j.name j.options)
  unfold buildFile
  generalize j.settle s (Component.compileFileInRoot s.tree root p j.name j.options) =
    built at htree ⊢
  obtain ⟨s', fault | output⟩ := built
  · exact htree
  · dsimp only
    split <;> exact htree

/-- Building a path that leads nowhere fails and changes nothing but the error output. -/
theorem buildFile_of_not_isPresent (j : Job) (root : Bytes) (hs : s.tree.Rooted)
    (hp : s.tree.isPresent p = false) :
    ∃ text fault, j.buildFile s root p = (s.printError text, .error fault) := by
  have hread : ∀ src, s.tree.read p ≠ .ok src := by
    intro src hread
    unfold FileTree.isPresent at hp
    unfold FileTree.read FileTree.stat at hread
    cases hentry : s.tree.entry p with
    | error fault => simp [hentry, Except.mapError, Except.bind] at hread
    | ok e => simp [hentry, Except.toOption] at hp
  have hcode : ∀ n code, ¬Component.HasCode s.tree p j.name j.options n code := by
    rintro n code ⟨_, src, hsrc, _⟩
    exact hread src hsrc
  obtain ⟨hsame, fault, hfault⟩ :=
    (Component.fileBuilt_compileFileInRoot hs root p j.name j.options).eq_of_not_hasCode hcode
  obtain ⟨text, htext⟩ :=
    j.exists_settle_eq s (Component.compileFileInRoot s.tree root p j.name j.options)
  unfold buildFile
  cases hsettle : j.settle s (Component.compileFileInRoot s.tree root p j.name j.options) with
  | mk s' result =>
      rw [hsettle, hsame] at htext
      obtain rfl : s' = s.printError text := htext
      cases result with
      | ok output =>
          have hresult := settle_eq_ok (congrArg Prod.snd hsettle)
          rw [hfault] at hresult
          cases hresult
      | error fault' => exact ⟨text, fault', rfl⟩

/-- The session after a build: a fault that was not printed is logged. -/
def logFault (j : Job) (s : Session) : Except JobFault Unit → Session
  | .ok () => s
  | .error .compilation => s
  | .error fault => j.log s fault.message

theorem exists_logFault_eq (j : Job) (s : Session) (result : Except JobFault Unit) :
    ∃ text, j.logFault s result = s.printError text := by
  rcases result with fault | _
  · cases fault with
    | compilation => exact ⟨[], s.printError_nil.symm⟩
    | unreadable path fault => exact ⟨_, rfl⟩
    | build fault => exact ⟨_, rfl⟩
  · exact ⟨[], s.printError_nil.symm⟩

end ComponentCompiler.Job

namespace ComponentCompiler.Watcher

open FileTree (Grows)

variable {w : Watcher} {j : Job} {s s' s'' : Session} {t : FileTree} {paths ps : List Bytes}
  {p ext : Bytes}
  {result : Except JobFault Unit} {rs : List (Bytes × Except JobFault Unit)}

/-! ## Compiling what is pending -/

theorem rebuild_of_missing (h : s.tree.entry p = .error .missing) : w.rebuild j s p = s := by
  rw [rebuild, h]

theorem rebuild_of_ne_missing (h : s.tree.entry p ≠ .error .missing) :
    w.rebuild j s p = j.logFault (j.buildFile s (w.rootOf p) p).1
      (j.buildFile s (w.rootOf p) p).2 := by
  unfold rebuild
  split
  · exact absurd ‹_› h
  · generalize j.buildFile s (w.rootOf p) p = built
    obtain ⟨s', fault | _⟩ := built
    · cases fault <;> rfl
    · rfl

/-- From the session `s`, of the paths `ps` in turn those that are there are compiled, with the
results `rs`, which leads to `s'`. For a path that is not there something is printed at most to the
error output. -/
inductive Rebuilds (w : Watcher) (j : Job) :
    Session → List Bytes → List (Bytes × Except JobFault Unit) → Session → Prop
  | done (s : Session) : Rebuilds w j s [] [] s
  | built {s s' s'' : Session} {p : Bytes} {ps : List Bytes} {result : Except JobFault Unit}
      {rs : List (Bytes × Except JobFault Unit)} (hp : s.tree.isPresent p)
      (hbuild : j.buildFile s (w.rootOf p) p = (s', result))
        (h : Rebuilds w j (j.logFault s' result) ps rs s'') :
      Rebuilds w j s (p :: ps) ((p, result) :: rs) s''
  | passed {s s' : Session} {p text : Bytes} {ps : List Bytes}
    {rs : List (Bytes × Except JobFault Unit)}
      (hp : s.tree.isPresent p = false) (hmissing : s.tree.entry p = .error .missing → text = [])
      (h : Rebuilds w j (s.printError text) ps rs s') : Rebuilds w j s (p :: ps) rs s'

theorem grows_buildFile (hs : s.tree.Ordered)
    (hbuild : j.buildFile s (w.rootOf p) p = (s', result)) :
    Grows s.tree (j.logFault s' result).tree := by
  have htree := j.tree_buildFile s (w.rootOf p) p
  obtain ⟨text, htext⟩ := j.exists_logFault_eq s' result
  rw [hbuild] at htree
  rw [htext, Session.tree_printError, htree]
  exact Component.grows_compileFileInRoot hs _ _ _ _

theorem exists_rebuilds (w : Watcher) (j : Job) (hs : s.tree.Ordered) (ps : List Bytes) :
    ∃ rs, Rebuilds w j s ps rs (ps.foldl (w.rebuild j) s) := by
  induction ps generalizing s with
  | nil => exact ⟨[], .done s⟩
  | cons p ps ih =>
      rw [List.foldl_cons]
      cases hp : s.tree.isPresent p with
      | true =>
          have hentry : s.tree.entry p ≠ .error .missing := by
            intro hentry
            simp [FileTree.isPresent, hentry, Except.toOption] at hp
          cases hbuild : j.buildFile s (w.rootOf p) p with
          | mk s' result =>
              have hrebuild : w.rebuild j s p = j.logFault s' result := by
                rw [rebuild_of_ne_missing hentry, hbuild]
              obtain ⟨rs, hrs⟩ := ih (grows_buildFile hs hbuild).ordered
              rw [hrebuild]
              exact ⟨_, .built hp hbuild hrs⟩
      | false =>
          by_cases hentry : s.tree.entry p = .error .missing
          · obtain ⟨rs, hrs⟩ := ih hs
            rw [rebuild_of_missing hentry]
            exact ⟨rs, .passed hp (fun _ => rfl) (by rwa [s.printError_nil])⟩
          · -- below a file nothing is there, yet nothing is missing: the path cannot be read
            obtain ⟨text, fault, hbuild⟩ := j.buildFile_of_not_isPresent (w.rootOf p) hs.rooted hp
            obtain ⟨text', htext'⟩ := j.exists_logFault_eq (s.printError text) (.error fault)
            have hrebuild : w.rebuild j s p = s.printError (text ++ text') := by
              rw [rebuild_of_ne_missing hentry, hbuild, htext', Session.printError_printError]
            obtain ⟨rs, hrs⟩ := @ih (s.printError (text ++ text')) hs
            rw [hrebuild]
            exact ⟨rs, .passed hp (fun h => absurd h hentry) hrs⟩

theorem Rebuilds.grows (h : Rebuilds w j s ps rs s') (hs : s.tree.Ordered) :
    Grows s.tree s'.tree := by
  induction h with
  | done => exact .refl hs
  | built _ hbuild _ ih =>
      have hgrows := grows_buildFile hs hbuild
      exact hgrows.trans (ih hgrows.ordered)
  | passed _ _ _ ih => exact ih hs

/-- What is there at first is compiled, and what is compiled is there in the end. -/
theorem Rebuilds.sublist (h : Rebuilds w j s ps rs s') (hs : s.tree.Ordered) :
    (ps.filter s.tree.isPresent).Sublist (rs.map Prod.fst) ∧
      (rs.map Prod.fst).Sublist (ps.filter s'.tree.isPresent) := by
  induction h with
  | done => exact ⟨List.Sublist.refl _, List.Sublist.refl _⟩
  | built hp hbuild h ih =>
      have hgrows := grows_buildFile hs hbuild
      obtain ⟨hfirst, hlast⟩ := ih hgrows.ordered
      have hlater := (hgrows.trans (h.grows hgrows.ordered)).isPresent hp
      rw [List.map_cons, List.filter_cons_of_pos hp, List.filter_cons_of_pos hlater]
      -- the tree only grows, so what is there at first is there when its turn comes
      refine ⟨List.Sublist.cons_cons _ (List.Sublist.trans ?_ hfirst),
        List.Sublist.cons_cons _ hlast⟩
      exact List.monotone_filter_right _ fun _ => hgrows.isPresent
  | passed hp _ _ ih =>
      obtain ⟨hfirst, hlast⟩ := ih hs
      rw [List.filter_cons_of_neg (by simp [hp])]
      refine ⟨hfirst, hlast.trans ?_⟩
      exact (List.sublist_cons_self _ _).filter _

theorem Rebuilds.map_fst_eq (h : Rebuilds w j s ps rs s') (hs : s.tree.Ordered)
    (hnew : ∀ p ∈ ps, s'.tree.isPresent p → s.tree.isPresent p) :
    rs.map Prod.fst = ps.filter s.tree.isPresent := by
  obtain ⟨hfirst, hlast⟩ := h.sublist hs
  have hsame : ps.filter s'.tree.isPresent = ps.filter s.tree.isPresent := by
    apply List.filter_congr
    intro p hp
    exact Bool.eq_iff_iff.mpr ⟨hnew p hp, (h.grows hs).isPresent⟩
  rw [hsame] at hlast
  exact hlast.antisymm hfirst

/-! ## Taking in events -/

theorem queue_cases (w : Watcher) (t : FileTree) (ext : Bytes) (e : Event) :
    (w.queue t ext e).2 = false ∧ (w.queue t ext e).1.pending = w.pending ∨
      (w.queue t ext e).2 = true ∧ (w.queue t ext e).1.pending =
        if w.pending.contains e.path then w.pending else w.pending ++ [e.path] := by
  unfold queue
  split_ifs <;> simp [watchDirectory]

theorem mem_pending_queue {e : Event} :
    p ∈ (w.queue t ext e).1.pending ↔ p ∈ w.pending ∨ (w.queue t ext e).2 ∧ p = e.path := by
  rcases w.queue_cases t ext e with ⟨hdue, hpending⟩ | ⟨hdue, hpending⟩
  · simp [hdue, hpending]
  · rw [hdue, hpending]
    split
    · rename_i hmem
      simp only [true_and, iff_self_or]
      rintro rfl
      exact List.contains_iff_mem.mp hmem
    · simp

theorem nodup_pending_queue {e : Event} (h : w.pending.Nodup) :
    (w.queue t ext e).1.pending.Nodup := by
  rcases w.queue_cases t ext e with ⟨_, hpending⟩ | ⟨_, hpending⟩
  · rwa [hpending]
  · rw [hpending]
    split
    · exact h
    · rename_i hmem
      rw [List.contains_iff_mem] at hmem
      refine List.nodup_append.mpr ⟨h, List.nodup_singleton _, ?_⟩
      intro q hq r hr hqr
      rw [hqr, List.mem_singleton.mp hr] at hq
      exact hmem hq

end ComponentCompiler.Watcher

namespace ComponentCompiler.Watch.Loop

open Watcher (Rebuilds)

variable {j : Job} {w : Watcher} {l : Loop} {s : Session} {t t₀ : FileTree} {due paths : List Bytes}

/-- The paths that are due after a signal if those of `due` were before: the path of an event that
is taken in is due until sources are compiled. -/
def dueAfter (j : Job) (l : Loop) (due : List Bytes) : Signal → List Bytes
  | .event e =>
    if (l.watcher.queue l.session.tree j.options.extension e).2 then due ++ [e.path] else due
  | .failure _ => due
  | .timer => if l.armed then [] else due

/-- The paths that are due after a list of signals, each with the files that it finds. -/
def dueAmid (j : Job) : Loop → List Bytes → List (FileTree × Signal) → List Bytes
  | _, due, [] => due
  | l, due, (t, signal) :: steps =>
    let l := { l with session := l.session.withTree t }
    dueAmid j (l.step j signal) (l.dueAfter j due signal) steps

/-- The paths of `due` are pending, each once, and the timer runs exactly while there are any. -/
structure Awaits (l : Loop) (due : List Bytes) : Prop where
  armed : l.armed ↔ l.watcher.pending ≠ []
  nodup : l.watcher.pending.Nodup
  mem : ∀ p, p ∈ l.watcher.pending ↔ p ∈ due

theorem awaits_begin (hstart : Watcher.start t₀ paths = .ok w) (j : Job) (s : Session) :
    Awaits (begin j w s) [] := by
  have hpending : w.pending = [] := (Watcher.adds_start hstart).pending
  exact ⟨by simp [begin, hpending], by simp [begin, hpending], by simp [begin, hpending]⟩

theorem Awaits.withTree (h : Awaits l due) (t : FileTree) :
    Awaits { l with session := l.session.withTree t } due := ⟨h.armed, h.nodup, h.mem⟩

theorem Awaits.event (h : Awaits l due) (j : Job) (e : Event) :
    Awaits (l.step j (.event e)) (l.dueAfter j due (.event e)) := by
  have hmem : ∀ p, p ∈ (l.watcher.queue l.session.tree j.options.extension e).1.pending ↔
      p ∈ l.dueAfter j due (.event e) := by
    intro p
    rw [Watcher.mem_pending_queue, h.mem, dueAfter]
    split <;> simp_all
  refine ⟨?_, Watcher.nodup_pending_queue h.nodup, hmem⟩
  simp only [step, Bool.or_eq_true]
  rcases l.watcher.queue_cases l.session.tree j.options.extension e
    with ⟨hdue, hpending⟩ | ⟨hdue, _⟩
  · rw [hdue, hpending]
    simpa using h.armed
  · have hpath : e.path ∈ (l.watcher.queue l.session.tree j.options.extension e).1.pending :=
      Watcher.mem_pending_queue.mpr (.inr ⟨hdue, rfl⟩)
    simp [hdue, List.ne_nil_of_mem hpath]

theorem Awaits.step (h : Awaits l due) (j : Job) (signal : Signal) :
    Awaits (l.step j signal) (l.dueAfter j due signal) := by
  cases signal with
  | event e => exact h.event j e
  | failure text => exact ⟨h.armed, h.nodup, h.mem⟩
  | timer =>
      rw [Loop.step, dueAfter]
      split
      · exact ⟨by simp [Watcher.flush], by simp [Watcher.flush], by simp [Watcher.flush]⟩
      · exact h

theorem Awaits.runAmid (h : Awaits l due) (j : Job) (steps : List (FileTree × Signal)) :
    Awaits (l.runAmid j steps) (dueAmid j l due steps) := by
  induction steps generalizing l due with
  | nil => exact h
  | cons x steps ih => exact ih ((h.withTree x.1).step j x.2)

theorem runAmid_concat (j : Job) (l : Loop) (steps : List (FileTree × Signal)) (t : FileTree)
    (signal : Signal) :
    l.runAmid j (steps ++ [(t, signal)]) =
      { l.runAmid j steps with session := (l.runAmid j steps).session.withTree t }.step j signal :=
  List.foldl_concat _ _ _ _

/-- The loop loses no change and compiles none twice. The timer runs while something is pending.
When it fires, the paths that are due are taken in ascending order, each one that is there is
compiled whatever became of those before it, and nothing stays pending. A due path that is not there
at first can only be compiled if compiling the others made it. -/
theorem timer_compiles_due (hstart : Watcher.start t₀ paths = .ok w) (j : Job) (s : Session)
    (steps : List (FileTree × Signal)) (ht : t.Ordered) :
    let l := (begin j w s).runAmid j steps
    let after := (begin j w s).runAmid j (steps ++ [(t, .timer)])
    (l.armed ↔ l.watcher.pending ≠ []) ∧
    (l.armed = false → after = { l with session := l.session.withTree t }) ∧
    (l.armed → after.armed = false ∧ after.watcher = { l.watcher with pending := [] } ∧
      ∃ order results, order.Pairwise (Bytes.lt · ·) ∧
        (∀ p, p ∈ order ↔ p ∈ dueAmid j (begin j w s) [] steps) ∧
        Rebuilds l.watcher j (l.session.withTree t) order results after.session ∧
        (order.filter t.isPresent).Sublist (results.map Prod.fst) ∧
        (results.map Prod.fst).Sublist (order.filter after.session.tree.isPresent) ∧
        ((∀ p ∈ order, after.session.tree.isPresent p → t.isPresent p) →
          results.map Prod.fst = order.filter t.isPresent)) := by
  dsimp only
  have hawaits := (awaits_begin hstart j s).runAmid j steps
  rw [runAmid_concat]
  generalize (begin j w s).runAmid j steps = l at hawaits ⊢
  refine ⟨hawaits.armed, ?_, ?_⟩
  · intro hidle
    rw [step, if_neg (by simp [hidle])]
  · intro harmed
    rw [step, if_pos harmed]
    obtain ⟨results, hresults⟩ :=
      l.watcher.exists_rebuilds j (s := l.session.withTree t) ht (Bytes.sort l.watcher.pending)
    obtain ⟨hfirst, hlast⟩ := hresults.sublist ht
    refine ⟨rfl, rfl, Bytes.sort l.watcher.pending, results, Bytes.pairwise_sort hawaits.nodup, ?_,
      hresults,
      hfirst, hlast, hresults.map_fst_eq ht⟩
    intro p
    rw [Bytes.mem_sort, hawaits.mem]

open Watcher (mixedTree ordered_mixedTree mixedSession plainJob directoryPaths directoryWatcher)

/-- Writes of two sources, the later one twice. -/
def burst : List (FileTree × Signal) :=
  [Bytes.lit "/w/lib/B.vc", Bytes.lit "/w/A.vc", Bytes.lit "/w/lib/B.vc"].map fun p =>
    (mixedTree, .event { path := p, written := true })

def burstLoop : Loop := (begin plainJob directoryWatcher mixedSession).runAmid plainJob burst

theorem timer_compiles_due_burst :
    ∃ order results, Rebuilds burstLoop.watcher plainJob
      (burstLoop.session.withTree mixedTree) order results
        ((begin plainJob directoryWatcher mixedSession).runAmid plainJob
          (burst ++ [(mixedTree, .timer)])).session ∧
      results.map Prod.fst = [Bytes.lit "/w/A.vc", Bytes.lit "/w/lib/B.vc"] := by
  have hstart : Watcher.start mixedTree directoryPaths = .ok directoryWatcher := by decide +kernel
  have hdue : dueAmid plainJob (begin plainJob directoryWatcher mixedSession) [] burst =
      [Bytes.lit "/w/lib/B.vc", Bytes.lit "/w/A.vc", Bytes.lit "/w/lib/B.vc"] := by
    decide +kernel
  obtain ⟨_, _, hfires⟩ := timer_compiles_due hstart plainJob mixedSession burst ordered_mixedTree
  obtain ⟨_, _, order, results, hsorted, hmem, hrebuilds, _, _, hresults⟩ :=
    hfires (by decide +kernel)
  obtain rfl : order = [Bytes.lit "/w/A.vc", Bytes.lit "/w/lib/B.vc"] := by
    refine Bytes.eq_of_pairwise_lt hsorted (by decide +kernel) fun p => ?_
    rw [hmem, hdue]
    simp only [List.mem_cons, List.not_mem_nil, or_false]
    tauto
  have hthere : ∀ p ∈ [Bytes.lit "/w/A.vc", Bytes.lit "/w/lib/B.vc"], mixedTree.isPresent p := by
    decide +kernel
  refine ⟨_, results, hrebuilds, (hresults fun p hp _ => hthere p hp).trans ?_⟩
  exact List.filter_eq_self.mpr hthere

end ComponentCompiler.Watch.Loop
