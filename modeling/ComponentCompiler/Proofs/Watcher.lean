import ComponentCompiler.Proofs.Location
import ComponentCompiler.Proofs.Schedule
import ComponentCompiler.Watch.Basic
import Mathlib

/-!
# What a watcher takes in

A watcher that was started for paths has one root for each, and its files are the paths that are no
directories. Searching for sources skips more directories than watching does, so a watcher of a
directory also takes in sources that no build of the directory compiles: those below a directory of
dependencies or test data.
-/

namespace ComponentCompiler.Component

open ComponentCompiler.Path (IsProper IsClean)

variable {t : FileTree} {rs : List Bytes} {d : Bytes}

theorem watchedDirectories_of_get? (ht : t.Rooted) (hrs : IsClean true rs)
    {es : List (Bytes × Entry)} (h : t.root.get? rs = some (.directory es)) :
    watchedDirectories t (Path.ofComponents true rs) = Path.ofComponents true rs ::
      ((Entry.descendants (fun name => !isHidden name) (Path.ofComponents true rs)
        (.directory es)).filter (·.entry.isDirectory)).map (·.path) := by
  have hentry := ht.toOption_entry (Path.clean_ofComponents hrs)
  rw [ht.locate_of_isClean hrs, h] at hentry
  unfold watchedDirectories
  cases hroot : t.entry (Path.ofComponents true rs) with
  | error fault => simp [hroot, Except.toOption] at hentry
  | ok e =>
      obtain rfl : e = .directory es := by simpa [hroot, Except.toOption] using hentry
      rfl

/-- The directories that are watched are those that are reached through directories that
are not hidden. -/
theorem mem_watchedDirectories_iff (ht : t.WellFormed) (hrs : IsClean true rs)
    (hdir : t.root.isDirectoryAt rs) :
    d ∈ watchedDirectories t (Path.ofComponents true rs) ↔
      ∃ ds, d = Path.ofComponents true (rs ++ ds) ∧ (∀ x ∈ ds, IsProper x ∧ isHidden x = false) ∧
        t.root.isDirectoryAt (rs ++ ds) := by
  obtain ⟨es, hes⟩ := Entry.get?_eq_directory hdir
  have hnamed : (Entry.directory es).WellNamed := ht.wellNamed.get? hes
  rw [watchedDirectories_of_get? ht.rooted hrs hes, List.mem_cons]
  constructor
  · rintro (rfl | hd)
    · exact ⟨[], by rw [List.append_nil], by simp, by rwa [List.append_nil]⟩
    · obtain ⟨v, hv, rfl⟩ := List.mem_map.mp hd
      obtain ⟨hmem, hentry⟩ := List.mem_filter.mp hv
      obtain ⟨ds, hpath, hget, hds, hname⟩ := hnamed.isBelow hrs hmem
      have hlast := hnamed.enter_of_mem_descendants hmem hentry
      refine ⟨ds ++ [v.name], hpath, ?_, ?_⟩
      · intro x hx
        rcases List.mem_append.mp hx with hx | hx
        · simpa using hds x hx
        · rw [List.mem_singleton.mp hx]
          exact ⟨hname, by simpa using hlast⟩
      · rw [Entry.isDirectoryAt, Entry.get?_append, hes, Option.bind_some, hget]
        exact hentry
  · rintro ⟨ds, rfl, hds, hbelow⟩
    rcases List.eq_nil_or_concat ds with rfl | ⟨ds, name, rfl⟩
    · exact .inl (by rw [List.append_nil])
    · rw [List.concat_eq_append] at hds hbelow ⊢
      obtain ⟨es', hes'⟩ := Entry.get?_eq_directory hbelow
      rw [Entry.get?_append, hes, Option.bind_some] at hes'
      have hname := hds name (by simp)
      have hway : ∀ x ∈ ds, IsProper x ∧ (!isHidden x) = true := by
        intro x hx
        simpa using hds x (by simp [hx])
      have hvisit :=
        Entry.mem_descendants_of_get? hrs hway hname.1 (fun _ => by simp [hname.2]) hes'
      exact .inr (List.mem_map.mpr ⟨_, List.mem_filter.mpr ⟨hvisit, rfl⟩, rfl⟩)

end ComponentCompiler.Component

namespace ComponentCompiler.Watcher

/-! ## Starting -/

/-- The directory that is watched for a path that was asked for. -/
def rootFor (t : FileTree) (path : Bytes) : Bytes :=
  if t.isDirectory (Path.absolute t.cwd path) then Path.absolute t.cwd path
  else Path.dir (Path.absolute t.cwd path)

/-- `w'` is `w` with paths added that were asked for. -/
structure Adds (t : FileTree) (w : Watcher) (paths : List Bytes) (w' : Watcher) : Prop where
  roots : w'.roots = w.roots ++ paths.map (rootFor t)
  files : ∀ p, p ∈ w'.files ↔
    p ∈ w.files ∨ ∃ q ∈ paths, Path.absolute t.cwd q = p ∧ t.isDirectory p = false
  watched : ∀ d, d ∈ w'.watched ↔
    d ∈ w.watched ∨ ∃ q ∈ paths, d ∈ Component.watchedDirectories t (rootFor t q)
  present : ∀ q ∈ paths, t.isPresent (Path.absolute t.cwd q)
  pending : w'.pending = w.pending

variable {t : FileTree} {w w' w'' : Watcher} {paths : List Bytes} {path p ext : Bytes}

theorem Adds.refl (t : FileTree) (w : Watcher) : Adds t w [] w where
  roots := (List.append_nil _).symm
  files := by simp
  watched := by simp
  present := by simp
  pending := rfl

theorem Adds.cons (h : Adds t w [path] w') (h' : Adds t w' paths w'') :
    Adds t w (path :: paths) w'' where
  roots := by
    rw [h'.roots, h.roots, List.append_assoc]
    rfl
  files := by
    intro p
    rw [h'.files, h.files]
    simp [or_assoc]
  watched := by
    intro d
    rw [h'.watched, h.watched]
    simp [or_assoc]
  present := List.forall_mem_cons.mpr ⟨h.present path List.mem_cons_self, h'.present⟩
  pending := h'.pending.trans h.pending

theorem addPath_eq_ok (h : w.addPath t path = .ok w') :
    t.isPresent (Path.absolute t.cwd path) ∧ w'.roots = w.roots ++ [rootFor t path] ∧
    w'.watched = w.watched ++
      (Component.watchedDirectories t (rootFor t path)).filter (fun d => !w.watched.contains d) ∧
    (w'.files = if t.isDirectory (Path.absolute t.cwd path) ||
      w.files.contains (Path.absolute t.cwd path)
      then w.files else w.files ++ [Path.absolute t.cwd path]) ∧
    w'.pending = w.pending := by
  unfold addPath FileTree.stat at h
  unfold rootFor FileTree.isPresent FileTree.isDirectory
  cases hentry : t.entry (Path.absolute t.cwd path) with
  | error fault => simp [hentry, Except.mapError, Except.map] at h
  | ok e =>
      simp only [hentry, Except.mapError, Except.map, Except.ok.injEq] at h
      subst h
      cases he : e.isDirectory <;> simp [he, Except.toOption, watchDirectory]

theorem adds_addPath (h : w.addPath t path = .ok w') : Adds t w [path] w' := by
  obtain ⟨hpresent, hroots, hwatched, hfiles, hpending⟩ := addPath_eq_ok h
  refine ⟨hroots, ?_, ?_, by simpa using hpresent, hpending⟩
  · intro p
    rw [hfiles]
    by_cases hp : p = Path.absolute t.cwd path
    · subst hp
      cases t.isDirectory (Path.absolute t.cwd path) with
      | true => simp
      | false => by_cases hmem : Path.absolute t.cwd path ∈ w.files <;> simp [hmem]
    · split <;> simp [hp, Ne.symm hp]
  · intro d
    rw [hwatched]
    by_cases hd : d ∈ w.watched <;> simp [hd]

theorem adds_start (h : start t paths = .ok w) : Adds t {} paths w := by
  unfold start at h
  generalize ({} : Watcher) = w₀ at h ⊢
  induction paths generalizing w₀ with
  | nil =>
      obtain rfl : w₀ = w := Except.ok.inj h
      exact .refl t w₀
  | cons path paths ih =>
      rw [List.foldlM_cons] at h
      cases hfirst : w₀.addPath t path with
      | error fault => simp [hfirst, bind, Except.bind] at h
      | ok w₁ =>
          simp only [hfirst, bind, Except.bind] at h
          exact (adds_addPath hfirst).cons (ih w₁ h)

/-! ## Taking in a written file -/

/-- Whether a source is due to be compiled when it is written. -/
def isDueOnWrite (w : Watcher) (t : FileTree) (extension p : Bytes) : Bool :=
  (w.queue t extension { path := p, written := true }).2

theorem isDueOnWrite_iff :
    w.isDueOnWrite t ext p = true ↔ p.endsWith ext ∧ (w.files = [] ∨ p ∈ w.files) := by
  unfold isDueOnWrite queue
  cases p.endsWith ext with
  | false => simp
  | true =>
      by_cases hnone : w.files = []
      · simp [hnone]
      · by_cases hp : p ∈ w.files <;> simp [hnone, hp]

section

open ComponentCompiler.Path (IsProper IsClean)
open ComponentCompiler.Component
  (IsSourceFile SourceAt discover isHidden isSkipped skippedDirectories)

theorem exists_start_directory (hroot : t.isDirectory (Path.absolute t.cwd path)) :
    ∃ w, start t [path] = .ok w := by
  obtain ⟨w, hw⟩ : ∃ w, addPath {} t path = .ok w := by
    unfold FileTree.isDirectory at hroot
    unfold addPath FileTree.stat
    cases hentry : t.entry (Path.absolute t.cwd path) with
    | error fault => simp [hentry, Except.toOption] at hroot
    | ok e =>
        dsimp only
        rw [hentry]
        exact ⟨_, rfl⟩
  refine ⟨w, ?_⟩
  rw [start, List.foldlM_cons, hw]
  rfl

/-- A file in a directory that is reached from `rs` has one more component. -/
theorem exists_eq_ofComponents (ht : t.Rooted) (hp : IsSourceFile t p) {cs : List Bytes}
    (hcs : IsClean true cs) (hdir : Path.dir p = Path.ofComponents true cs) :
    ∃ name, p = Path.ofComponents true (cs ++ [name]) ∧ IsClean true (cs ++ [name]) ∧
      ∃ content, t.root.fileAt? (cs ++ [name]) = some content := by
  have habsolute : Path.isAbsolute p := by
    apply Path.isAbsolute_of_dir
    rw [hdir, Path.isAbsolute_ofComponents_of_isClean hcs]
  obtain ⟨content, hcontent⟩ := hp.isFile
  have hfree : ¬t.root.isDirectoryAt (t.locate p) := by
    intro hisdir
    rw [Entry.fileAt?_eq_none_of_isDirectoryAt hisdir] at hcontent
    cases hcontent
  obtain ⟨name, hname⟩ := ht.exists_locate_eq hp.clean hfree
  obtain ⟨hpath, hclean⟩ := ht.eq_ofComponents hp.clean habsolute
  rw [hdir, ht.locate_of_isClean hcs] at hname
  rw [hname] at hpath hclean hcontent
  exact ⟨name, hpath, hclean, content, hcontent⟩

variable {rs ds : List Bytes} {name : Bytes} {sources : List Bytes}

theorem dir_mem_watchedDirectories (ht : t.WellFormed) (hrs : IsClean true rs)
    (hdir : t.root.isDirectoryAt rs) (hp : SourceAt t rs ds name p) :
    Path.dir p ∈ Component.watchedDirectories t (Path.ofComponents true rs) := by
  obtain ⟨content, hcontent⟩ := hp.isFile
  rw [Entry.fileAt?_eq_some_iff] at hcontent
  apply (Component.mem_watchedDirectories_iff ht hrs hdir).mpr
  refine ⟨ds, hp.liesBelow.dir_eq, ?_, ?_⟩
  · intro d hd
    have hskipped := hp.entered d hd
    rw [isSkipped, Bool.or_eq_false_iff] at hskipped
    exact ⟨hp.clean.isProper d (by simp [hd]), hskipped.1⟩
  · exact Entry.isDirectoryAt_of_get?_append hcontent (List.cons_ne_nil name [])

/-- A file below directories that are not hidden is discovered if its name has the extension and
none of the directories is skipped for another reason. -/
theorem mem_sources_iff (ht : t.WellFormed) (hrs : IsClean true rs) (hdir : t.root.isDirectoryAt rs)
    (h : discover t (Path.ofComponents true rs) ext = .ok sources)
    (hp : p = Path.ofComponents true (rs ++ ds ++ [name]))
    (hclean : IsClean true (rs ++ ds ++ [name]))
    (hfile : ∃ content, t.root.fileAt? (rs ++ ds ++ [name]) = some content)
    (hhidden : ∀ d ∈ ds, isHidden d = false) :
    p ∈ sources ↔ name.endsWith ext ∧ ∀ d ∈ ds, d ∉ skippedDirectories := by
  constructor
  · intro hmem
    obtain ⟨ds', name', hsource, hends⟩ :=
      (Component.discover_of_isDirectoryAt ht hrs hdir h).2 p hmem
    have hsame := Path.ofComponents_inj hclean hsource.clean (hp.symm.trans hsource.path_eq)
    obtain ⟨hway, hlast⟩ := List.append_inj' hsame rfl
    obtain rfl := List.append_cancel_left hway
    obtain rfl := List.singleton_inj.mp hlast
    refine ⟨hends, fun d hd hskip => ?_⟩
    have hentered := hsource.entered d hd
    simp [isSkipped, hskip] at hentered
  · rintro ⟨hends, hskipped⟩
    refine Component.mem_of_sourceAt ht.rooted hrs hdir h ⟨hp, hclean, ?_, hfile⟩ hends
    intro d hd
    simp [isSkipped, hhidden d hd, hskipped d hd]

/-- A watcher of one directory takes in every source that a search of the directory finds. Of the
files in watched directories that it takes in, those are found whose name has the extension, as
it must if the extension has no slash, and that have no directory on their way that only the
search skips. -/
theorem watched_source_discovered_iff (ht : t.WellFormed) (root ext : Bytes)
    (hroot : t.isDirectory (Path.absolute t.cwd root)) :
    ∃ w sources, start t [root] = .ok w ∧ discover t (Path.absolute t.cwd root) ext = .ok sources ∧
      (∀ p ∈ sources, IsSourceFile t p ∧ Path.dir p ∈ w.watched ∧ w.isDueOnWrite t ext p) ∧
      ∀ p, IsSourceFile t p → Path.dir p ∈ w.watched → w.isDueOnWrite t ext p →
        ∃ ds name, p = Path.ofComponents true (t.locate root ++ ds ++ [name]) ∧
          (∀ d ∈ ds, isHidden d = false) ∧ (Ascii.slash ∉ ext → name.endsWith ext) ∧
          (p ∈ sources ↔ name.endsWith ext ∧ ∀ d ∈ ds, d ∉ skippedDirectories) := by
  obtain ⟨w, hstart⟩ := exists_start_directory hroot
  have hadds := adds_start hstart
  obtain ⟨habsolute, hrs⟩ := ht.rooted.absolute_eq root
  have hdir : t.root.isDirectoryAt (t.locate root) := by
    rwa [ht.rooted.isDirectory_absolute] at hroot
  have hrootFor : rootFor t root = Path.ofComponents true (t.locate root) :=
    (if_pos hroot).trans habsolute
  have hwatched : ∀ d, d ∈ w.watched ↔
      d ∈ Component.watchedDirectories t (Path.ofComponents true (t.locate root)) := by
    intro d
    rw [hadds.watched]
    simp [hrootFor]
  have hfiles : w.files = [] := by
    apply List.eq_nil_iff_forall_not_mem.mpr
    intro q hq
    rcases (hadds.files q).mp hq with hq | ⟨q', hq', rfl, hnot⟩
    · cases hq
    · rw [List.mem_singleton.mp hq', hroot] at hnot
      cases hnot
  obtain ⟨es, hes⟩ := Entry.get?_eq_directory hdir
  obtain ⟨sources, hsources⟩ :
      ∃ sources, discover t (Path.ofComponents true (t.locate root)) ext = .ok sources :=
    ⟨_, Component.discover_of_get? ht.rooted hrs hes ext⟩
  refine ⟨w, sources, hstart, by rw [habsolute, hsources], ?_, ?_⟩
  · intro p hp
    obtain ⟨ds, name, hsource, hends⟩ :=
      (Component.discover_of_isDirectoryAt ht hrs hdir hsources).2 p hp
    refine ⟨⟨?_, ?_⟩, (hwatched _).mpr (dir_mem_watchedDirectories ht hrs hdir hsource), ?_⟩
    · rw [hsource.path_eq, Path.clean_ofComponents hsource.clean]
    · rw [hsource.path_eq, ht.rooted.locate_of_isClean hsource.clean]
      exact hsource.isFile
    · rw [isDueOnWrite_iff, hsource.path_eq]
      exact ⟨Path.endsWith_ofComponents hends, .inl hfiles⟩
  · intro p hp hmem hdue
    obtain ⟨ds, hway, hds, _⟩ :=
      (Component.mem_watchedDirectories_iff ht hrs hdir).mp ((hwatched _).mp hmem)
    have hcs : IsClean true (t.locate root ++ ds) := hrs.append fun d hd => (hds d hd).1
    obtain ⟨name, hpath, hclean, hfile⟩ := exists_eq_ofComponents ht.rooted hp hcs hway
    refine ⟨ds, name, hpath, fun d hd => (hds d hd).2, ?_, ?_⟩
    · intro hslash
      apply Path.endsWith_of_endsWith_ofComponents hslash
      rw [← hpath]
      exact (isDueOnWrite_iff.mp hdue).1
    · exact mem_sources_iff ht hrs hdir hsources hpath hclean hfile fun d hd => (hds d hd).2

/-- A source, and another one among the dependencies. -/
def dependencyTree : FileTree where
  root := .directory [(Bytes.lit "w", .directory [
    (Bytes.lit "Counter.vc", .file (Bytes.lit "<template counter></template>")),
    (Bytes.lit "node_modules", .directory [
      (Bytes.lit "Clock.vc", .file (Bytes.lit "<template clock></template>"))])])]
  workingDirectory := [Bytes.lit "w"]

theorem wellFormed_dependencyTree : dependencyTree.WellFormed where
  rooted := ⟨by decide, by decide⟩
  wellNamed := by
    refine .directory (by decide) (by decide) (List.forall_mem_singleton.mpr ?_)
    refine .directory (by decide) (by decide) (List.forall_mem_cons.mpr ⟨.file _, ?_⟩)
    refine List.forall_mem_singleton.mpr ?_
    exact .directory (by decide) (by decide) (List.forall_mem_singleton.mpr (.file _))

theorem watched_source_discovered_dependency :
    ∃ w sources, start dependencyTree [Bytes.lit "."] = .ok w ∧
      discover dependencyTree (Bytes.lit "/w") (Bytes.lit ".vc") = .ok sources ∧
      w.isDueOnWrite dependencyTree (Bytes.lit ".vc") (Bytes.lit "/w/Counter.vc") ∧
      Bytes.lit "/w/Counter.vc" ∈ sources := by
  obtain ⟨w, sources, hstart, hsources, hfound, _⟩ :=
    watched_source_discovered_iff wellFormed_dependencyTree (Bytes.lit ".") (Bytes.lit ".vc")
      (by decide)
  have heq : sources = [Bytes.lit "/w/Counter.vc"] :=
    Except.ok.inj (hsources.symm.trans (by decide +kernel))
  have hmem : Bytes.lit "/w/Counter.vc" ∈ sources := by simp [heq]
  exact ⟨w, sources, hstart, hsources, (hfound _ hmem).2.2, hmem⟩

/-- A source among the dependencies is watched and due when it is written, and no
search finds it. -/
theorem watcher_takes_dependency :
    ∃ w, start dependencyTree [Bytes.lit "."] = .ok w ∧ Bytes.lit "/w/node_modules" ∈ w.watched ∧
      (dependencyTree.read (Bytes.lit "/w/node_modules/Clock.vc")).toOption.isSome ∧
      w.isDueOnWrite dependencyTree (Bytes.lit ".vc") (Bytes.lit "/w/node_modules/Clock.vc") ∧
      discover dependencyTree (Bytes.lit "/w") (Bytes.lit ".vc") =
        .ok [Bytes.lit "/w/Counter.vc"] :=
  ⟨{ roots := [Bytes.lit "/w"], watched := [Bytes.lit "/w", Bytes.lit "/w/node_modules"] },
    by decide +kernel, by decide, by decide +kernel, by decide +kernel, by decide +kernel⟩

end

end ComponentCompiler.Watcher
