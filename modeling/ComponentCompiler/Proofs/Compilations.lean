import ComponentCompiler.Proofs.TreeGrowth
import ComponentCompiler.Proofs.Watcher
import Mathlib

/-!
# What a job compiles

A job tells of every source that it compiles, also if it fails later on, and one that succeeds
counts them (`length_compilations`). A source was found below a directory that was asked for, or was
asked for itself, and it is still there when the job is done.
-/

namespace ComponentCompiler.Component

/-- A source that was compiled, the root that it was compiled under and where its code went. -/
structure Compilation where
  root : Bytes
  source : Bytes
  output : Bytes
  deriving DecidableEq, Repr

/-- The compilation that a notice tells of. -/
def Notice.compilation? (root : Bytes) : Notice → Option Compilation
  | compiled source output => some ⟨root, source, output⟩
  | _ => none

/-- The compilations under a root that notices tell of. -/
def compilationsOf (root : Bytes) (notices : List Notice) : List Compilation :=
  notices.filterMap (Notice.compilation? root)

variable {t : FileTree} {root p name : Bytes} {options : Options} {sources : List Bytes}
  {c : Compilation}

/-! ## Compiling code -/

theorem compilationsOf_append (root : Bytes) (ns ms : List Notice) :
    compilationsOf root (ns ++ ms) = compilationsOf root ns ++ compilationsOf root ms :=
  List.filterMap_append

theorem compilationsOf_map_eq_nil {α : Type} {f : α → Notice}
    (hf : ∀ a, (f a).compilation? root = none) (xs : List α) :
    compilationsOf root (xs.map f) = [] := by
  apply List.filterMap_eq_nil_iff.mpr
  intro n hn
  obtain ⟨a, _, rfl⟩ := List.mem_map.mp hn
  exact hf a

theorem compilationsOf_bind_eq_nil {ε α β : Type} {x : Report ε α} {f : α → Report ε β}
    (hx : compilationsOf root x.notices = []) (hf : ∀ a, compilationsOf root (f a).notices = []) :
    compilationsOf root (x >>= f).notices = [] := by
  change compilationsOf root (Report.bind x f).notices = []
  unfold Report.bind
  cases x.result with
  | error fault => exact hx
  | ok a =>
      dsimp only
      rw [compilationsOf_append, hx, hf a, List.append_nil]

theorem compilationsOf_compileSubs (root : Bytes) (registry : Template.Registry)
    (bs : List Template.Block) : compilationsOf root (compileSubs registry bs).notices = [] := by
  induction bs generalizing registry with
  | nil => rfl
  | cons b bs ih =>
      rw [compileSubs]
      refine compilationsOf_bind_eq_nil (compilationsOf_map_eq_nil (fun _ => rfl) _) fun first => ?_
      exact compilationsOf_bind_eq_nil (ih _) fun _ => rfl

theorem compilationsOf_scriptNotices (root name : Bytes) (scripts : List Markup.Script) :
    compilationsOf root (scriptNotices name scripts) = [] := by
  unfold scriptNotices
  split <;> rfl

theorem compilationsOf_compileDocument (root : Bytes) (doc : Markup.Document) (name : Bytes)
    (options : Options) : compilationsOf root (compileDocument doc name options).notices = [] := by
  unfold compileDocument
  refine compilationsOf_bind_eq_nil rfl fun blocks => ?_
  refine compilationsOf_bind_eq_nil rfl fun _ => ?_
  refine compilationsOf_bind_eq_nil rfl fun _ => ?_
  refine compilationsOf_bind_eq_nil (compilationsOf_map_eq_nil (fun _ => rfl) _) fun main => ?_
  refine compilationsOf_bind_eq_nil (compilationsOf_compileSubs _ _ _) fun subs => ?_
  refine compilationsOf_bind_eq_nil (compilationsOf_map_eq_nil (fun _ => rfl) _) fun _ => ?_
  refine compilationsOf_bind_eq_nil (compilationsOf_map_eq_nil (fun _ => rfl) _) fun _ => ?_
  refine compilationsOf_bind_eq_nil (compilationsOf_scriptNotices _ _ _) fun _ => ?_
  exact compilationsOf_bind_eq_nil rfl fun _ => rfl

theorem compilationsOf_compileSource (root : Bytes) (source : Source) (name : Bytes)
    (options : Options) :
    compilationsOf root (compileSource source name options).notices = [] := by
  unfold compileSource
  split
  · rfl
  · exact compilationsOf_compileDocument _ _ _ _

theorem compilationsOf_generate (t : FileTree) (root p name : Bytes) (opts : Options) :
    compilationsOf root (generate t root p name opts).notices = [] := by
  unfold generate
  refine compilationsOf_bind_eq_nil rfl fun n => ?_
  refine compilationsOf_bind_eq_nil rfl fun src => ?_
  exact compilationsOf_bind_eq_nil (compilationsOf_compileSource _ _ _ _) fun _ => rfl

/-! ## Compiling files -/

/-- A file that is compiled is the one compilation that it tells of. -/
theorem compilationsOf_compileFileInRoot (t : FileTree) (root p name : Bytes) (options : Options) :
    compilationsOf root (compileFileInRoot t root p name options).2.notices =
      ((compileFileInRoot t root p name options).2.result.toOption.map (⟨root, p, ·⟩)).toList := by
  have hnotices := compilationsOf_generate t root p name options.withDefaults
  unfold compileFileInRoot
  dsimp only
  cases (generate t root p name options.withDefaults).result with
  | error fault => exact hnotices
  | ok g =>
      dsimp only
      generalize writeGenerated t g = written
      obtain ⟨t', fault | _⟩ := written
      · exact hnotices
      · dsimp only
        rw [compilationsOf_append, hnotices]
        rfl

/-- The code of a file goes to the output path for its name. -/
theorem output_of_compileFileInRoot {output : Bytes}
    (h : (compileFileInRoot t root p name options).2.result = .ok output) :
    ∃ n, nameFor p name = .ok n ∧ output = outputPath root p n options := by
  unfold compileFileInRoot at h
  dsimp only at h
  cases hgenerate : (generate t root p name options.withDefaults).result with
  | error fault => simp [hgenerate] at h
  | ok g =>
      obtain ⟨n, hname, houtput⟩ := output_of_generate hgenerate
      rw [outputPath_withDefaults] at houtput
      simp only [hgenerate] at h
      generalize writeGenerated t g = written at h
      obtain ⟨t', fault | _⟩ := written
      · cases h
      · exact ⟨n, hname, (Except.ok.inj h).symm.trans houtput⟩

theorem exists_name_of_mem_compilationsOf
    (h : c ∈ compilationsOf root (compileFileInRoot t root p name options).2.notices) :
    ∃ n, nameFor p name = .ok n ∧ c = ⟨root, p, outputPath root p n options⟩ := by
  rw [compilationsOf_compileFileInRoot] at h
  cases hresult : (compileFileInRoot t root p name options).2.result with
  | error fault => simp [hresult, Except.toOption] at h
  | ok output =>
      obtain ⟨n, hname, rfl⟩ := output_of_compileFileInRoot hresult
      simp only [hresult, Except.toOption, Option.map_some, Option.toList_some,
        List.mem_singleton] at h
      exact ⟨n, hname, h⟩

theorem exists_source_of_mem_compilationsOf
    (h : c ∈ compilationsOf root (compileInOrder root options t sources).2.notices) :
    ∃ p ∈ sources, ∃ n, nameFor p [] = .ok n ∧ c = ⟨root, p, outputPath root p n options⟩ := by
  induction sources generalizing t with
  | nil => cases h
  | cons p sources ih =>
      rw [compileInOrder] at h
      cases hresult : (compileFileInRoot t root p [] options).2.result with
      | error fault =>
          simp only [hresult] at h
          exact ⟨p, List.mem_cons_self, exists_name_of_mem_compilationsOf h⟩
      | ok output =>
          simp only [hresult, compilationsOf_append] at h
          rcases List.mem_append.mp h with h | h
          · exact ⟨p, List.mem_cons_self, exists_name_of_mem_compilationsOf h⟩
          · obtain ⟨q, hq, hc⟩ := ih h
            exact ⟨q, List.mem_cons_of_mem p hq, hc⟩

theorem absolute_of_discover (ht : t.WellFormed) {ext : Bytes}
    (h : discover t (Path.absolute t.cwd root) ext = .ok sources) (hp : p ∈ sources) :
    Path.absolute t.cwd p = p := by
  obtain ⟨habsolute, hclean⟩ := ht.rooted.absolute_eq root
  rw [habsolute] at h
  obtain ⟨front, base, rfl, hbase, _⟩ := exists_source ht hclean h hp
  exact ht.rooted.absolute_ofComponents hbase

theorem length_compilationsOf_compileInOrder {outputs : List Bytes}
    (h : (compileInOrder root options t sources).2.result = .ok outputs) :
    (compilationsOf root (compileInOrder root options t sources).2.notices).length =
      outputs.length := by
  induction sources generalizing t outputs with
  | nil =>
      obtain rfl : [] = outputs := Except.ok.inj h
      rfl
  | cons p sources ih =>
      rw [compileInOrder] at h ⊢
      cases hresult : (compileFileInRoot t root p [] options).2.result with
      | error fault => simp [hresult] at h
      | ok output =>
          simp only [hresult] at h ⊢
          cases hothers : (compileInOrder root options
              (compileFileInRoot t root p [] options).1 sources).2.result with
          | error fault => simp [hothers, Except.map] at h
          | ok others =>
              simp only [hothers, Except.map, Except.ok.injEq] at h
              rw [compilationsOf_append, compilationsOf_compileFileInRoot, hresult,
                List.length_append, ih hothers, ← h, List.length_cons, Nat.add_comm]
              rfl

theorem length_compilationsOf_compileDirectory {canceled : Bool} {outputs : List Bytes}
    (h : (compileDirectory t root options canceled).2.result = .ok outputs) :
    (compilationsOf (Path.absolute t.cwd root)
      (compileDirectory t root options canceled).2.notices).length =
      outputs.length := by
  unfold compileDirectory at h ⊢
  dsimp only at h ⊢
  cases hsources : discover t (Path.absolute t.cwd root) options.withDefaults.extension with
  | error fault =>
      simp only [hsources] at h
      cases h
  | ok sources =>
      simp only [hsources] at h ⊢
      split at h
      · cases h
      · rename_i hcanceled
        rw [if_neg hcanceled]
        cases hresult :
          (compileInOrder (Path.absolute t.cwd root) options.withDefaults t sources).2.result with
        | error fault => simp [hresult, Except.map] at h
        | ok found =>
            simp only [hresult, Except.map, Except.ok.injEq] at h
            rw [← h, Bytes.sort, List.length_mergeSort]
            exact length_compilationsOf_compileInOrder hresult

end ComponentCompiler.Component

namespace ComponentCompiler.Job

open FileTree (Grows)
open Component (Compilation SourceAt compilationsOf nameFor outputPath)

/-! ## Compiling paths -/

/-- The sources that are compiled for one path. -/
def pathCompilations (j : Job) (t : FileTree) (path : Bytes) (canceled : Bool) : List Compilation :=
  match t.entry path with
  | .error _ => []
  | .ok (.directory _) =>
    compilationsOf (Path.absolute t.cwd path)
      (Component.compileDirectory t path j.options canceled).2.notices
  | .ok (.file _) =>
    compilationsOf (Path.dir path) (Component.compileFile t path j.name j.options).2.notices

/-- The sources that are compiled for paths, up to the first fault. -/
def compilations (j : Job) (canceled : Bool) : Session → List Bytes → List Compilation
  | _, [] => []
  | s, path :: paths =>
    j.pathCompilations s.tree path canceled ++
      match j.buildPath s path canceled with
      | (_, .error _) => []
      | (s, .ok _) => j.compilations canceled s paths

/-- How a source comes to be compiled for a path that was asked for. -/
inductive Origin (j : Job) (t : FileTree) (path : Bytes) : Compilation → Prop
  | found {es : List (Bytes × Entry)} {sources : List Bytes} {source name : Bytes}
      (hentry : t.entry path = .ok (.directory es))
      (hsources :
        Component.discover t (Path.absolute t.cwd path) j.options.withDefaults.extension =
          .ok sources)
      (hmem : source ∈ sources) (hname : nameFor source [] = .ok name) :
      Origin j t path ⟨Path.absolute t.cwd path, source,
        outputPath (Path.absolute t.cwd path) source name j.options⟩
  | given {content name : Bytes} (hentry : t.entry path = .ok (.file content))
      (hname : nameFor path j.name = .ok name) :
      Origin j t path ⟨Path.dir path, path, outputPath (Path.dir path) path name j.options⟩

variable {j : Job} {s : Session} {t t' : FileTree} {path : Bytes} {paths : List Bytes}
  {canceled : Bool}
  {c : Compilation}

theorem origin_of_mem_pathCompilations (h : c ∈ j.pathCompilations t path canceled) :
    Origin j t path c := by
  unfold pathCompilations at h
  split at h
  · cases h
  · rename_i es hentry
    unfold Component.compileDirectory at h
    dsimp only at h
    cases hsources :
      Component.discover t (Path.absolute t.cwd path) j.options.withDefaults.extension with
    | error fault =>
        simp only [hsources] at h
        cases h
    | ok sources =>
        simp only [hsources] at h
        split at h
        · cases h
        · obtain ⟨source, hmem, n, hname, rfl⟩ := Component.exists_source_of_mem_compilationsOf h
          rw [Component.outputPath_withDefaults]
          exact .found hentry hsources hmem hname
  · rename_i content hentry
    obtain ⟨n, hname, rfl⟩ := Component.exists_name_of_mem_compilationsOf h
    exact .given hentry hname

/-- A source is compiled in the tree that the paths before its own leave. -/
theorem exists_origin (hs : s.tree.Ordered) (h : c ∈ j.compilations canceled s paths) :
    ∃ before path after, paths = before ++ path :: after ∧
      Origin j (j.buildPaths canceled s before).1.tree path c ∧
      Grows (j.buildPaths canceled s before).1.tree (j.buildPaths canceled s paths).1.tree := by
  induction paths generalizing s with
  | nil => cases h
  | cons path paths ih =>
      rw [compilations] at h
      rcases List.mem_append.mp h with h | h
      · exact ⟨[], path, paths, rfl, origin_of_mem_pathCompilations h, j.grows_buildPaths hs _ _⟩
      · have hfirst := j.grows_buildPath hs path canceled
        cases hbuild : j.buildPath s path canceled with
        | mk s' result =>
            rw [hbuild] at h hfirst
            cases result with
            | error fault => cases h
            | ok n =>
                obtain ⟨before, path', after, hpaths, horigin, hgrows⟩ := ih hfirst.ordered h
                refine ⟨path :: before, path', after, by rw [hpaths, List.cons_append], ?_, ?_⟩
                · simpa only [buildPaths, hbuild] using horigin
                · simpa only [buildPaths, hbuild] using hgrows

/-- A source is compiled in a tree between the one that the build finds and the one
that it leaves. -/
theorem exists_origin_of_buildAll (hs : s.tree.Ordered) {s' : Session}
    {built : Except JobFault Unit} (hbuild : j.buildAll s paths canceled = (s', built))
    (h : c ∈ j.compilations canceled s paths) :
    ∃ path ∈ paths, ∃ t, Grows s.tree t ∧ Grows t s'.tree ∧ Origin j t path c ∧
      ∀ q, paths = [q] → path = q ∧ t = s.tree := by
  obtain ⟨before, path, after, rfl, horigin, hgrows⟩ := exists_origin hs h
  rw [← j.tree_buildAll s (before ++ path :: after), hbuild] at hgrows
  refine ⟨path, by simp, _, j.grows_buildPaths hs before canceled, hgrows, horigin, ?_⟩
  intro q hq
  cases before with
  | nil => exact ⟨(List.cons.inj hq).1, rfl⟩
  | cons first before => simp at hq

theorem settle_eq_ok {α : Type} {built : FileTree × Component.Report Component.BuildFault α} {a : α}
    (h : (j.settle s built).2 = .ok a) : built.2.result = .ok a := by
  unfold settle at h
  dsimp only at h
  cases hresult : built.2.result with
  | ok b => simpa [hresult] using h
  | error fault =>
      simp only [hresult] at h
      cases h

theorem length_pathCompilations {n : Nat} (h : (j.buildPath s path canceled).2 = .ok n) :
    (j.pathCompilations s.tree path canceled).length = n := by
  unfold buildPath FileTree.stat at h
  unfold pathCompilations
  cases hentry : s.tree.entry path with
  | error fault => simp [hentry, Except.mapError] at h
  | ok e =>
      cases e with
      | directory es =>
          simp only [hentry, Except.mapError] at h
          cases hsettle :
            (j.settle s (Component.compileDirectory s.tree path j.options canceled)).2 with
          | error fault => simp [hsettle, Except.map] at h
          | ok outputs =>
              simp only [hsettle, Except.map, Except.ok.injEq] at h
              subst h
              exact Component.length_compilationsOf_compileDirectory (settle_eq_ok hsettle)
      | file content =>
          simp only [hentry, Except.mapError] at h
          cases hsettle : (j.settle s (Component.compileFile s.tree path j.name j.options)).2 with
          | error fault => simp [hsettle, Except.map] at h
          | ok output =>
              simp only [hsettle, Except.map, Except.ok.injEq] at h
              dsimp only
              rw [Component.compileFile, Component.compilationsOf_compileFileInRoot]
              have hresult := settle_eq_ok hsettle
              rw [Component.compileFile] at hresult
              rw [hresult, ← h]
              rfl

/-- A build that succeeds counts its compilations. -/
theorem length_compilations {n : Nat} (h : (j.buildPaths canceled s paths).2 = .ok n) :
    (j.compilations canceled s paths).length = n := by
  induction paths generalizing s n with
  | nil => exact Except.ok.inj h
  | cons path paths ih =>
      rw [buildPaths] at h
      rw [compilations]
      cases hbuild : j.buildPath s path canceled with
      | mk s' result =>
          cases result with
          | error fault => simp [hbuild] at h
          | ok k =>
              simp only [hbuild] at h ⊢
              cases hothers : (j.buildPaths canceled s' paths).2 with
              | error fault => simp [hothers, Except.map] at h
              | ok m =>
                  simp only [hothers, Except.map, Except.ok.injEq] at h
                  rw [List.length_append, length_pathCompilations (by rw [hbuild]), ih hothers, h]

/-! ## Compiled sources in the tree that is left -/

theorem sourceAt_of_grows (h : Grows t t') {rs ds : List Bytes} {name p : Bytes}
    (hp : SourceAt t rs ds name p) : SourceAt t' rs ds name p := by
  refine ⟨hp.path_eq, hp.clean, hp.entered, Option.isSome_iff_exists.mp (h.files _ ?_)⟩
  obtain ⟨content, hcontent⟩ := hp.isFile
  rw [hcontent]
  rfl

/-- A path that led to a directory or a file still does. -/
theorem isDirectory_of_grows (ht : t.Ordered) (h : Grows t t') {e : Entry}
    (hentry : t.entry path = .ok e) :
    t'.isDirectory (Path.absolute t'.cwd path) = e.isDirectory := by
  have hget := FileTree.get?_of_entry ht.rooted hentry
  rw [h.ordered.rooted.isDirectory_absolute, h.locate_eq]
  cases e with
  | directory es =>
      apply h.directories
      rw [Entry.isDirectoryAt, hget]
      rfl
  | file content =>
      have hfile : (t'.root.fileAt? (t.locate path)).isSome := by
        apply h.files
        rw [Entry.fileAt?_eq_some_iff.mpr hget]
        rfl
      by_contra hdir
      rw [Entry.fileAt?_eq_none_of_isDirectoryAt (by simpa [Entry.isDirectory] using hdir)] at hfile
      cases hfile

/-- A compiled source lies below its root, which is the one that is watched for the path. -/
theorem Origin.sourceAt (ht : t.Ordered) (hgrows : Grows t t') (h : Origin j t path c) :
    Watcher.rootFor t' path = Path.absolute t'.cwd c.root ∧
      t'.root.isDirectoryAt (t'.locate c.root) ∧
      ∃ ds name, SourceAt t' (t'.locate c.root) ds name (Path.absolute t'.cwd c.source) := by
  cases h with
  | @found es sources source name hentry hsources hmem hname =>
      have hsame := Component.absolute_of_discover ht.wellFormed hsources hmem
      obtain ⟨habsolute, hclean⟩ := ht.rooted.absolute_eq path
      have hdir : t.root.isDirectoryAt (t.locate path) := by
        rw [Entry.isDirectoryAt, FileTree.get?_of_entry ht.rooted hentry]
        rfl
      rw [habsolute] at hsources
      obtain ⟨ds, base, hsource, _⟩ :=
        (Component.discover_of_isDirectoryAt ht.wellFormed hclean hdir hsources).2 source hmem
      have hisdir : t'.isDirectory (Path.absolute t'.cwd path) :=
        isDirectory_of_grows ht hgrows hentry
      dsimp only
      rw [Watcher.rootFor, if_pos hisdir, hgrows.locate_eq, ht.rooted.locate_absolute,
        hgrows.cwd_eq, ht.rooted.absolute_absolute, hsame]
      exact ⟨rfl, hgrows.directories _ hdir, ds, base, sourceAt_of_grows hgrows hsource⟩
  | @given content name hentry hname =>
      obtain ⟨hproper, hlocate⟩ := ht.rooted.locate_file hentry
      have hfile :
          t.root.get? (t.locate (Path.dir path) ++ [Path.base path]) = some (.file content) := by
        rw [← hlocate, FileTree.get?_of_entry ht.rooted hentry]
      have hnot : ¬t'.isDirectory (Path.absolute t'.cwd path) := by
        rw [isDirectory_of_grows ht hgrows hentry]
        exact Bool.false_ne_true
      obtain ⟨habsolute, hclean⟩ := ht.rooted.absolute_eq path
      rw [hlocate] at habsolute hclean
      dsimp only
      rw [Watcher.rootFor, if_neg hnot, hgrows.cwd_eq, ht.rooted.dir_absolute hentry,
        hgrows.locate_eq]
      refine ⟨rfl, hgrows.directories _ ?_, [], Path.base path, sourceAt_of_grows hgrows ?_⟩
      · exact Entry.isDirectoryAt_of_get?_append hfile (List.cons_ne_nil _ [])
      · rw [habsolute]
        refine ⟨by rw [List.append_nil], by rwa [List.append_nil], by simp, content, ?_⟩
        rw [List.append_nil]
        exact Entry.fileAt?_eq_some_iff.mpr hfile

theorem Origin.endsWith (ht : t.Ordered) (hgrows : Grows t t') (h : Origin j t path c)
    (hdir : t'.isDirectory (Path.absolute t'.cwd path)) :
    (Path.absolute t'.cwd c.source).endsWith j.options.withDefaults.extension := by
  cases h with
  | @found es sources source name hentry hsources hmem hname =>
      have hsame := Component.absolute_of_discover ht.wellFormed hsources hmem
      obtain ⟨habsolute, hclean⟩ := ht.rooted.absolute_eq path
      rw [habsolute] at hsources
      obtain ⟨front, base, hsource, _, _, hends⟩ :=
        Component.exists_source ht.wellFormed hclean hsources hmem
      dsimp only
      rw [hgrows.cwd_eq, hsame, hsource]
      exact Path.endsWith_ofComponents hends
  | @given content name hentry hname =>
      rw [isDirectory_of_grows ht hgrows hentry] at hdir
      cases hdir

end ComponentCompiler.Job
