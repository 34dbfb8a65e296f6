import ComponentCompiler.Cli.Run
import ComponentCompiler.Proofs.WatchCoverage
import Mathlib

/-!
# Where a rebuild writes

A changed source is compiled under the shortest watched root that holds it. The first build compiled
it under the directory that was asked for, or under its own directory. With an output directory the
place of the code depends on the root, so a rebuild replaces what the first build wrote exactly if
the first build compiled the source under the chosen root, too.
-/

namespace ComponentCompiler.Path

variable {rs cs ds : List Bytes} {c : Bytes}

/-! ## Roots that hold a path -/

/-- The way from `root` to `p` does not look like a way up. -/
def Holds (root p : Bytes) : Prop :=
  ∃ rel, relative? root p = some rel ∧ rel.startsWith dotDot = false

theorem eq_append_of_dropCommon (h : dropCommon cs ds = ([], rs)) : ds = cs ++ rs := by
  induction cs generalizing ds with
  | nil =>
      cases ds with
      | nil => exact (Prod.mk.inj h).2
      | cons d ds => exact (Prod.mk.inj h).2
  | cons c cs ih =>
      cases ds with
      | nil => cases h
      | cons d ds =>
          rw [dropCommon] at h
          split at h
          · rename_i heq
            rw [heq, ih h, List.cons_append]
          · cases h

/-- A root holds what lies below it on a way that does not look like a way up. -/
theorem exists_append_of_holds (hrs : IsClean true rs) (hcs : IsClean true cs)
    (h : Holds (ofComponents true rs) (ofComponents true cs)) :
    ∃ ds, cs = rs ++ ds ∧ (ofComponents false ds).startsWith dotDot = false := by
  obtain ⟨rel, hrel, hdown⟩ := h
  have hprefix : ∃ ds, cs = rs ++ ds := by
    unfold relative? at hrel
    rw [clean_ofComponents hrs, clean_ofComponents hcs, isAbsolute_ofComponents_of_isClean hrs,
      isAbsolute_ofComponents_of_isClean hcs, cleanComponents_ofComponents hrs, targetComponents,
      cleanComponents_ofComponents hcs, isAbsolute_ofComponents_of_isClean hcs] at hrel
    split at hrel
    · rename_i heq
      exact ⟨[], by rw [List.append_nil, ofComponents_inj hrs hcs heq]⟩
    · simp only [Bool.not_true, Bool.and_false, bne_self_eq_false, Bool.false_eq_true,
        if_false] at hrel
      split at hrel
      · rename_i down hdrop
        exact ⟨down, eq_append_of_dropCommon hdrop⟩
      · split at hrel
        · cases hrel
        · -- a way that has steps up starts with one
          rw [← Option.some.inj hrel, List.map_cons, List.cons_append,
            startsWith_intercalate] at hdown
          cases hdown
  obtain ⟨ds, rfl⟩ := hprefix
  have hds : ∀ d ∈ ds, IsProper d := fun d hd => hcs.isProper d (List.mem_append_right rs hd)
  rw [relative?_append hrs hds] at hrel
  exact ⟨ds, rfl, by rwa [Option.some.inj hrel]⟩

theorem holds_append (hrs : IsClean true rs) (hds : ∀ d ∈ ds, IsProper d)
    (hdown : (ofComponents false ds).startsWith dotDot = false) :
    Holds (ofComponents true rs) (ofComponents true (rs ++ ds)) :=
  ⟨_, relative?_append hrs hds, hdown⟩

theorem startsWith_append_slash (p q : Bytes) :
    (p ++ Ascii.slash :: q).startsWith dotDot = p.startsWith dotDot := by
  match p with
  | [] => rfl
  | [b] => simp [Bytes.startsWith, dotDot, List.isPrefixOf, show Ascii.dot ≠ Ascii.slash by decide]
  | b :: b' :: p => simp [Bytes.startsWith, dotDot, List.isPrefixOf]

theorem startsWith_ofComponents_concat (hds : ds ≠ []) (c : Bytes) :
    (ofComponents false (ds ++ [c])).startsWith dotDot =
      (ofComponents false ds).startsWith dotDot := by
  rw [ofComponents_concat false hds, startsWith_append_slash]

/-! ## Lengths of paths -/

theorem length_lt_length_concat (cs : List Bytes) (hc : IsProper c) :
    (ofComponents true cs).length < (ofComponents true (cs ++ [c])).length := by
  have hpos : 0 < c.length := List.length_pos_iff.mpr hc.ne_nil
  by_cases hne : cs = []
  · subst hne
    rw [List.nil_append, ofComponents_root]
    exact Nat.succ_lt_succ hpos
  · rw [ofComponents_concat true hne, List.length_append]
    simp

theorem eq_nil_of_length_le (cs : List Bytes) (hds : ∀ d ∈ ds, IsProper d)
    (h : (ofComponents true (cs ++ ds)).length ≤ (ofComponents true cs).length) : ds = [] := by
  induction ds generalizing cs with
  | nil => rfl
  | cons d ds ih =>
      obtain ⟨hd, hrest⟩ := List.forall_mem_cons.mp hds
      have hlt := length_lt_length_concat cs hd
      rw [List.append_cons] at h
      have hnil := ih (cs ++ [d]) hrest (h.trans hlt.le)
      rw [hnil, List.append_nil] at h
      omega

end ComponentCompiler.Path

namespace ComponentCompiler.Watcher

open ComponentCompiler.Path (IsProper IsClean Holds)

variable {w : Watcher} {p best root : Bytes}

/-! ## The root that is chosen -/

/-- The better of two roots for a path: the new one if it holds the path and is shorter. -/
def closer (p best root : Bytes) : Bytes :=
  match Path.relative? root p with
  | some rel => if !rel.startsWith Path.dotDot && root.length < best.length then root else best
  | none => best

theorem rootOf_eq_foldl (w : Watcher) (p : Bytes) :
    w.rootOf p = w.roots.foldl (closer p) (Path.dir p) := rfl

theorem closer_cases (p best root : Bytes) :
    (closer p best root = root ∧ Holds root p ∧ root.length < best.length) ∨
      (closer p best root = best ∧ (Holds root p → best.length ≤ root.length)) := by
  unfold closer Holds
  cases Path.relative? root p with
  | none => simp
  | some rel =>
      cases hdown : rel.startsWith Path.dotDot with
      | true => simp [hdown]
      | false =>
          by_cases hlt : root.length < best.length
          · simp [hdown, hlt]
          · simp [hdown, hlt, Nat.not_lt.mp hlt]

theorem foldl_closer (p best : Bytes) (roots : List Bytes) :
    (roots.foldl (closer p) best = best ∨
        roots.foldl (closer p) best ∈ roots ∧ Holds (roots.foldl (closer p) best) p) ∧
      (roots.foldl (closer p) best).length ≤ best.length ∧
      ∀ root ∈ roots, Holds root p → (roots.foldl (closer p) best).length ≤ root.length := by
  induction roots generalizing best with
  | nil => simp
  | cons root roots ih =>
      obtain ⟨hchosen, hbest, hshortest⟩ := ih (closer p best root)
      rw [List.foldl_cons]
      rcases closer_cases p best root with ⟨hcloser, hholds, hlt⟩ | ⟨hcloser, hle⟩
      · rw [hcloser] at hchosen hbest hshortest ⊢
        refine ⟨.inr ?_, hbest.trans hlt.le, List.forall_mem_cons.mpr ⟨fun _ => hbest, hshortest⟩⟩
        rcases hchosen with hchosen | ⟨hmem, hchosen⟩
        · rw [hchosen]
          exact ⟨List.mem_cons_self, hholds⟩
        · exact ⟨List.mem_cons_of_mem root hmem, hchosen⟩
      · rw [hcloser] at hchosen hbest hshortest ⊢
        refine ⟨?_, hbest,
          List.forall_mem_cons.mpr ⟨fun hholds => hbest.trans (hle hholds), hshortest⟩⟩
        exact hchosen.imp_right fun h => ⟨List.mem_cons_of_mem root h.1, h.2⟩

theorem holds_of_liesBelow {rs ds : List Bytes} {name : Bytes}
    (hp : Component.LiesBelow rs ds name p) (hne : ds ≠ []) :
    Holds (Path.ofComponents true rs) p := by
  have hclean := hp.clean
  rw [List.append_assoc] at hclean
  have hway : (Path.ofComponents false (ds ++ [name])).startsWith Path.dotDot = false := by
    rw [Path.startsWith_ofComponents_concat hne, hp.down]
  rw [hp.path_eq, List.append_assoc]
  exact Path.holds_append (hclean.front (List.prefix_append _ _))
    (fun d hd => hclean.isProper d (List.mem_append_right rs hd)) hway

/-- A source lies below the root that is chosen for it if it lies below some root. -/
theorem rootOf_spec {rs ds : List Bytes} {name : Bytes} (hp : Component.LiesBelow rs ds name p)
    (hroots : ∀ root ∈ w.roots, ∃ qs, root = Path.ofComponents true qs ∧ IsClean true qs)
    (hmem : Path.ofComponents true rs ∈ w.roots) :
    w.rootOf p ∈ w.roots ∧ (∀ root ∈ w.roots, Holds root p → (w.rootOf p).length ≤ root.length) ∧
      ∃ qs es, w.rootOf p = Path.ofComponents true qs ∧ Component.LiesBelow qs es name p := by
  obtain ⟨hchosen, hbest, hshortest⟩ := foldl_closer p (Path.dir p) w.roots
  rw [← rootOf_eq_foldl] at hchosen hbest hshortest
  have hdirs : IsClean true (rs ++ ds) := hp.clean.front (List.prefix_append _ _)
  have hname : IsProper name := hp.clean.isProper name (by simp)
  have hds : ∀ d ∈ ds, IsProper d := fun d hd => hdirs.isProper d (List.mem_append_right rs hd)
  rcases hchosen with hchosen | ⟨hroot, hholds⟩
  · -- no root that holds the source is shorter than its directory, so that is a root
    have hnil : ds = [] := by
      by_contra hne
      have hle := hshortest _ hmem (holds_of_liesBelow hp hne)
      rw [hchosen, hp.dir_eq] at hle
      exact hne (Path.eq_nil_of_length_le rs hds hle)
    have heq : w.rootOf p = Path.ofComponents true rs := by
      rw [hchosen, hp.dir_eq, hnil, List.append_nil]
    exact ⟨heq ▸ hmem, hshortest, rs, ds, heq, hp⟩
  · obtain ⟨qs, hqs, hclean⟩ := hroots _ hroot
    rw [hqs, hp.path_eq] at hholds
    obtain ⟨es, hes, hdown⟩ := Path.exists_append_of_holds hclean hp.clean hholds
    rcases List.eq_nil_or_concat es with rfl | ⟨es, last, rfl⟩
    · -- the root is no longer than the directory of the source
      rw [hqs, hp.dir_eq, ← List.append_nil qs, ← hes] at hbest
      exact absurd (Path.length_lt_length_concat (rs ++ ds) hname) (Nat.not_lt.mpr hbest)
    · rw [List.concat_eq_append, ← List.append_assoc] at hes
      rw [List.concat_eq_append] at hdown
      obtain ⟨hfront, hlast⟩ := List.append_inj' hes rfl
      obtain rfl := List.singleton_inj.mp hlast
      refine ⟨hroot, hshortest, qs, es, hqs, ⟨hp.path_eq.trans (by rw [hes]), hes ▸ hp.clean, ?_⟩⟩
      by_cases hne : es = []
      · rw [hne]
        rfl
      · rwa [Path.startsWith_ofComponents_concat hne] at hdown

end ComponentCompiler.Watcher

namespace ComponentCompiler.Component

open ComponentCompiler.Path (IsProper IsClean)

variable {t : FileTree} {path p name : Bytes} {options : Options}

/-! ## Places of outputs -/

theorem outputPath_of_outDir_eq_nil (h : options.outDir = []) (root root' p name : Bytes) :
    outputPath root p name options = outputPath root' p name options := by
  have hout : options.withDefaults.outDir = [] := h
  unfold outputPath
  dsimp only
  rw [if_pos hout, if_pos hout]

/-- With an output directory, the place of the code of a source tells the root. -/
theorem root_eq_of_place_eq (ht : t.Rooted)
    (hout : options.outDir ≠ []) {rs ds rs' ds' : List Bytes}
    {base base' : Bytes} (hp : LiesBelow rs ds base p) (hp' : LiesBelow rs' ds' base' p)
    (hfile : IsProper (name ++ options.withDefaults.outExtension))
    (h : t.locate (outputPath (Path.ofComponents true rs) p name options) =
      t.locate (outputPath (Path.ofComponents true rs') p name options)) : rs = rs' := by
  have hbase : ∀ qs, outBase options qs = Path.cleanComponents options.outDir :=
    fun qs => if_neg hout
  have hclean : IsClean (outAbsolute options) (Path.cleanComponents options.outDir) := by
    have hnil : IsClean true ([] : List Bytes) :=
      Path.isClean_of_isProper (List.forall_mem_nil IsProper)
    rw [← hbase []]
    exact isClean_outBase hnil options
  rw [hp.outputPath_eq hfile, hp'.outputPath_eq hfile, hbase, hbase,
    ht.locate_append hclean (hp.isProper_outputWay hfile),
    ht.locate_append hclean (hp'.isProper_outputWay hfile), List.append_cancel_left_eq] at h
  have hway : ds = ds' := (List.append_inj' h rfl).1
  have hdirs := Path.ofComponents_inj hp.clean hp'.clean (hp.path_eq.symm.trans hp'.path_eq)
  have hfront := (List.append_inj' hdirs rfl).1
  rw [hway] at hfront
  exact List.append_cancel_right hfront

/-- A file that was asked for has its output where it would have it under its absolute path. -/
theorem locate_outputPath_absolute (ht : t.Rooted) {content : Bytes}
    (h : t.entry path = .ok (.file content)) (name : Bytes) (options : Options) :
    t.locate (outputPath (Path.dir path) path name options) =
      t.locate (outputPath (Path.absolute t.cwd (Path.dir path))
        (Path.absolute t.cwd path) name options) := by
  have hsame : ∀ p, Path.relative? p p = some Path.dot := fun p => if_pos rfl
  have hdir := ht.dir_absolute h
  unfold outputPath
  dsimp only
  rw [hdir, hsame, hsame]
  split
  · have hne : Path.dir path ≠ [] := Path.clean_ne_nil _
    have hne' : Path.absolute t.cwd (Path.dir path) ≠ [] := hdir ▸ Path.clean_ne_nil _
    rw [ht.locate_join hne, ht.locate_join hne', ht.locate_absolute]
  · rfl

theorem nameFor_absolute (ht : t.Rooted) {content given : Bytes}
    (h : t.entry path = .ok (.file content)) (hname : nameFor path given = .ok name) :
    nameFor (Path.absolute t.cwd path) given = .ok name := by
  have hstem : stem (Path.absolute t.cwd path) = stem path := by
    rw [stem, stem, ht.base_absolute h]
  unfold nameFor at hname ⊢
  split at hname
  · rename_i hnone
    rw [mapError_eq_ok] at hname
    rw [if_pos hnone, mapError_eq_ok, componentName, hstem]
    exact hname
  · rename_i hgiven
    rwa [if_neg hgiven]

end ComponentCompiler.Component

namespace ComponentCompiler.Job

open FileTree (Grows)
open Component (Compilation LiesBelow nameFor outputPath)

variable {j : Job} {s : Session} {t t' : FileTree} {path p : Bytes} {paths : List Bytes}
  {canceled : Bool}
  {c : Compilation}

/-- A source is compiled to where its absolute path has its output under the absolute root. -/
theorem Origin.locate_output (ht : t.Ordered) (hgrows : Grows t t') (h : Origin j t path c)
    (hname : j.name = [] ∨ t.isDirectory path = false) :
    ∃ n, nameFor (Path.absolute t'.cwd c.source) j.name = .ok n ∧
      t'.locate c.output = t'.locate (outputPath (Path.absolute t'.cwd c.root)
        (Path.absolute t'.cwd c.source) n j.options) := by
  cases h with
  | @found es sources source name hentry hsources hmem hfound =>
      have hnone : j.name = [] := by
        apply hname.resolve_right
        rw [FileTree.isDirectory, hentry]
        exact Bool.noConfusion
      have hsame := Component.absolute_of_discover ht.wellFormed hsources hmem
      dsimp only
      rw [hgrows.cwd_eq, hsame, ht.rooted.absolute_absolute, hnone]
      exact ⟨name, hfound, rfl⟩
  | @given content name hentry hgiven =>
      refine ⟨name, ?_, ?_⟩
      · rw [hgrows.cwd_eq]
        exact Component.nameFor_absolute ht.rooted hentry hgiven
      · rw [hgrows.cwd_eq, hgrows.locate_eq, hgrows.locate_eq]
        exact Component.locate_outputPath_absolute ht.rooted hentry name j.options

/-- The build compiles the source `p` under `root`. -/
def CompilesUnder (j : Job) (canceled : Bool) (s : Session) (paths : List Bytes) (p root : Bytes) :
    Prop :=
  ∃ c ∈ j.compilations canceled s paths,
    Path.absolute s.tree.cwd c.source = p ∧ Path.absolute s.tree.cwd c.root = root

/-- The build writes the code of the source `p` to the place of `output`. -/
def CompilesTo (j : Job) (canceled : Bool) (s : Session) (paths : List Bytes) (p output : Bytes) :
    Prop :=
  ∃ c ∈ j.compilations canceled s paths,
    Path.absolute s.tree.cwd c.source = p ∧ s.tree.locate c.output = s.tree.locate output

end ComponentCompiler.Job

namespace ComponentCompiler.Watcher

open ComponentCompiler.Path (IsProper IsClean Holds)
open Component (Compilation LiesBelow nameFor outputPath)
open Watch (Signal)

variable {j : Job} {s s' : Session} {built : Except JobFault Unit} {t : FileTree}
  {paths : List Bytes}
  {canceled : Bool} {c : Compilation} {w : Watcher} {p output : Bytes}

/-! ## Rebuilds -/

theorem exists_rootFor_eq (ht : t.Rooted) (path : Bytes) :
    ∃ qs, rootFor t path = Path.ofComponents true qs ∧ IsClean true qs := by
  obtain ⟨habsolute, hclean⟩ := ht.absolute_eq path
  unfold rootFor
  split
  · exact ⟨_, habsolute, hclean⟩
  · rw [habsolute]
    rcases List.eq_nil_or_concat (t.locate path) with hnil | ⟨front, last, hlocate⟩
    · rw [hnil]
      exact ⟨[], rfl, Path.isClean_of_isProper (List.forall_mem_nil IsProper)⟩
    · rw [hlocate, List.concat_eq_append] at hclean ⊢
      have hfront : IsClean true front := hclean.front (List.prefix_append _ _)
      exact ⟨front, Path.dir_ofComponents hfront (hclean.isProper last (by simp)).slash, hfront⟩

/-- What is known of a compilation of the source `p` when watching starts in the tree `t`. -/
structure Covers (w : Watcher) (j : Job) (t : FileTree) (p : Bytes) (c : Compilation) : Prop where
  root_mem : Path.absolute t.cwd c.root ∈ w.roots
  below : ∃ ds base, LiesBelow (t.locate c.root) ds base p
  output : ∃ n, nameFor p j.name = .ok n ∧
    t.locate c.output = t.locate (outputPath (Path.absolute t.cwd c.root) p n j.options)

theorem Keeps.rootOf_eq {w' : Watcher} (h : Keeps w w') (p : Bytes) : w'.rootOf p = w.rootOf p := by
  rw [rootOf_eq_foldl, rootOf_eq_foldl, h.roots]

section

variable (hs : s.tree.Ordered)
  (hname : j.name = [] ∨ ∃ q, paths = [q] ∧ s.tree.isDirectory q = false)
  (hbuild : j.buildAll s paths canceled = (s', built)) (hstart : start s'.tree paths = .ok w)
  (hc : c ∈ j.compilations canceled s paths) (hp : Path.absolute s.tree.cwd c.source = p)

include hs hbuild hc in
theorem grows_of_mem_compilations : FileTree.Grows s.tree s'.tree := by
  obtain ⟨_, _, _, hfirst, hgrows, _⟩ := Job.exists_origin_of_buildAll hs hbuild hc
  exact hfirst.trans hgrows

include hs hname hbuild hstart hc hp

theorem covers_of_mem_compilations : w.Covers j s'.tree p c := by
  obtain ⟨path, hpath, t, hfirst, hgrows, horigin, honly⟩ :=
    Job.exists_origin_of_buildAll hs hbuild hc
  have hcwd : s'.tree.cwd = s.tree.cwd := (hfirst.trans hgrows).cwd_eq
  obtain ⟨hroot, _, ds, base, hsource⟩ := horigin.sourceAt hfirst.ordered hgrows
  have hgiven : j.name = [] ∨ t.isDirectory path = false := by
    apply hname.imp_right
    rintro ⟨q, hq, hfile⟩
    obtain ⟨rfl, rfl⟩ := honly q hq
    exact hfile
  have houtput := horigin.locate_output hfirst.ordered hgrows hgiven
  rw [hcwd, hp] at hsource
  rw [hcwd, hp, ← hcwd] at houtput
  refine ⟨?_, ⟨ds, base, hsource.liesBelow⟩, houtput⟩
  rw [(adds_start hstart).roots, ← hroot]
  exact List.mem_append_right _ (List.mem_map_of_mem hpath)

/-- The first build takes the name that a rebuild takes. -/
theorem locate_output_eq {n : Bytes} (hn : nameFor p j.name = .ok n) :
    s.tree.locate c.output =
      s.tree.locate (outputPath (Path.absolute s.tree.cwd c.root) p n j.options) := by
  have hgrows := grows_of_mem_compilations hs hbuild hc
  obtain ⟨n', hn', hplace⟩ := (covers_of_mem_compilations hs hname hbuild hstart hc hp).output
  obtain rfl := Except.ok.inj (hn.symm.trans hn')
  rwa [hgrows.locate_eq, hgrows.locate_eq, hgrows.cwd_eq] at hplace

theorem rootOf_compiled :
    w.rootOf p ∈ w.roots ∧ (∀ root ∈ w.roots, Holds root p → (w.rootOf p).length ≤ root.length) ∧
      ∃ qs es base, w.rootOf p = Path.ofComponents true qs ∧ LiesBelow qs es base p := by
  have ht := (grows_of_mem_compilations hs hbuild hc).ordered.rooted
  have hcovers := covers_of_mem_compilations hs hname hbuild hstart hc hp
  have hroots : ∀ root ∈ w.roots, ∃ qs, root = Path.ofComponents true qs ∧ IsClean true qs := by
    intro root hroot
    rw [(adds_start hstart).roots] at hroot
    obtain ⟨q, _, rfl⟩ := List.mem_map.mp hroot
    exact exists_rootFor_eq ht q
  have hmem := hcovers.root_mem
  rw [(ht.absolute_eq c.root).1] at hmem
  obtain ⟨ds, base, hbelow⟩ := hcovers.below
  obtain ⟨hchosen, hshortest, qs, es, hqs, hlies⟩ := rootOf_spec hbelow hroots hmem
  exact ⟨hchosen, hshortest, qs, es, base, hqs, hlies⟩

/-- A single path has a single root. -/
theorem compilesUnder_of_length_eq_one (hlen : paths.length = 1) :
    j.CompilesUnder canceled s paths p (w.rootOf p) := by
  obtain ⟨q, rfl⟩ := List.length_eq_one_iff.mp hlen
  have hchosen := (rootOf_compiled hs hname hbuild hstart hc hp).1
  have hroot := (covers_of_mem_compilations hs hname hbuild hstart hc hp).root_mem
  rw [(adds_start hstart).roots] at hchosen hroot
  refine ⟨c, hc, hp, ?_⟩
  rw [← (grows_of_mem_compilations hs hbuild hc).cwd_eq, List.mem_singleton.mp hroot,
    List.mem_singleton.mp hchosen]

theorem compilesTo_of_compilesUnder {n root : Bytes} (hn : nameFor p j.name = .ok n)
    (h : j.options.outDir = [] ∨ j.CompilesUnder canceled s paths p root) :
    j.CompilesTo canceled s paths p (outputPath root p n j.options) := by
  rcases h with hnone | ⟨c', hc', hp', hroot⟩
  · refine ⟨c, hc, hp, ?_⟩
    rw [locate_output_eq hs hname hbuild hstart hc hp hn,
      Component.outputPath_of_outDir_eq_nil hnone]
  · refine ⟨c', hc', hp', ?_⟩
    rw [locate_output_eq hs hname hbuild hstart hc' hp' hn, hroot]

theorem compilesUnder_of_compilesTo {n : Bytes} (hn : nameFor p j.name = .ok n)
    (hext : Ascii.slash ∉ j.options.withDefaults.outExtension)
    (h : j.CompilesTo canceled s paths p (outputPath (w.rootOf p) p n j.options)) :
    j.options.outDir = [] ∨ j.CompilesUnder canceled s paths p (w.rootOf p) := by
  by_cases hnone : j.options.outDir = []
  · exact .inl hnone
  · apply Or.inr
    by_cases hgiven : j.name = []
    · obtain ⟨c', hc', hp', hto⟩ := h
      have hgrows := grows_of_mem_compilations hs hbuild hc
      have ht := hgrows.ordered.rooted
      obtain ⟨_, _, qs, es, base, hqs, hlies⟩ := rootOf_compiled hs hname hbuild hstart hc hp
      obtain ⟨ds, base', hbelow⟩ :=
        (covers_of_mem_compilations hs hname hbuild hstart hc' hp').below
      have habsolute := (ht.absolute_eq c'.root).1
      rw [locate_output_eq hs hname hbuild hstart hc' hp' hn, ← hgrows.cwd_eq, habsolute, hqs,
        ← hgrows.locate_eq, ← hgrows.locate_eq] at hto
      rw [hgiven] at hn
      obtain ⟨hident, rfl⟩ := Component.nameFor_eq_ok hn
      have heq := Component.root_eq_of_place_eq ht hnone hbelow hlies
        (Component.isProper_outputName hident hext) hto
      refine ⟨c', hc', hp', ?_⟩
      rw [← hgrows.cwd_eq, habsolute, heq, hqs]
    · -- a name is given for a single path only
      obtain ⟨q, hq, _⟩ := hname.resolve_left hgiven
      exact compilesUnder_of_length_eq_one hs hname hbuild hstart hc hp (by rw [hq]; rfl)

end

theorem name_of_nameFault? {a : Cli.Arguments} (h : a.nameFault? t paths = none) :
    a.name = [] ∨ ∃ q, paths = [q] ∧ t.isDirectory q = false := by
  unfold Cli.Arguments.nameFault? at h
  split at h
  · rename_i hnone
    exact .inl hnone
  · split at h
    · rename_i q
      split at h
      · cases h
      · rename_i hfile
        exact .inr ⟨q, rfl, by simpa using hfile⟩
    · cases h

/-- A rebuild compiles a source under the shortest watched root that holds it. It replaces what the
first build wrote for the source if there is no output directory or the first build compiled the
source under that root, and only then if the output extension has no slash. With a single path it
always does. A component name that was given is one that the command line accepts for the paths. -/
theorem rebuild_replaces_iff (hs : s.tree.Ordered) {a : Cli.Arguments} (hgiven : j.name = a.name)
    (hfault : a.nameFault? s.tree paths = none) (hbuild : j.buildAll s paths canceled = (s', built))
    (hstart : start s'.tree paths = .ok w) (hc : c ∈ j.compilations canceled s paths)
    (hp : Path.absolute s.tree.cwd c.source = p) (steps : List (FileTree × Signal)) {l : Watch.Loop}
    (hl : (Watch.begin j w s').runAmid j steps = l)
    (hout :
      (Component.compileFileInRoot t (l.watcher.rootOf p) p j.name j.options).2.result =
        .ok output) :
    l.watcher.rootOf p ∈ w.roots ∧
      (∀ root ∈ w.roots, Holds root p → (l.watcher.rootOf p).length ≤ root.length) ∧
      (j.options.outDir = [] ∨ j.CompilesUnder canceled s paths p (l.watcher.rootOf p) →
        j.CompilesTo canceled s paths p output) ∧
      (Ascii.slash ∉ j.options.withDefaults.outExtension → j.CompilesTo canceled s paths p output →
        j.options.outDir = [] ∨ j.CompilesUnder canceled s paths p (l.watcher.rootOf p)) ∧
      (paths.length = 1 → j.CompilesTo canceled s paths p output) := by
  have hname := name_of_nameFault? hfault
  rw [← hgiven] at hname
  have hkeeps := (Watch.begin j w s').keeps_runAmid j steps
  rw [hl] at hkeeps
  have hsame : l.watcher.rootOf p = w.rootOf p := hkeeps.rootOf_eq p
  rw [hsame] at hout ⊢
  obtain ⟨n, hn, rfl⟩ := Component.output_of_compileFileInRoot hout
  obtain ⟨hchosen, hshortest, _⟩ := rootOf_compiled hs hname hbuild hstart hc hp
  have hreplaces : j.options.outDir = [] ∨ j.CompilesUnder canceled s paths p (w.rootOf p) →
      j.CompilesTo canceled s paths p (outputPath (w.rootOf p) p n j.options) :=
    compilesTo_of_compilesUnder hs hname hbuild hstart hc hp hn
  refine ⟨hchosen, hshortest, hreplaces, ?_, ?_⟩
  · exact compilesUnder_of_compilesTo hs hname hbuild hstart hc hp hn
  · intro hlen
    exact hreplaces (.inr (compilesUnder_of_length_eq_one hs hname hbuild hstart hc hp hlen))

def distJob : Job where
  options := { extension := Bytes.lit ".vc", outDir := Bytes.lit "dist" }

/-- A directory and one that it holds. -/
def overlappingPaths : List Bytes := [Bytes.lit ".", Bytes.lit "lib"]

def overlappingWatcher : Watcher where
  roots := [Bytes.lit "/w", Bytes.lit "/w/lib"]
  watched := [Bytes.lit "/w", Bytes.lit "/w/dist", Bytes.lit "/w/dist/lib", Bytes.lit "/w/lib"]

set_option maxRecDepth 100000 in
theorem rebuild_replaces_overlapping :
    start (distJob.buildAll mixedSession overlappingPaths false).1.tree overlappingPaths =
        .ok overlappingWatcher ∧
      (Component.compileFileInRoot mixedTree (overlappingWatcher.rootOf (Bytes.lit "/w/lib/B.vc"))
        (Bytes.lit "/w/lib/B.vc") [] distJob.options).2.result = .ok (Bytes.lit "dist/lib/B.js") ∧
      distJob.CompilesTo false mixedSession overlappingPaths (Bytes.lit "/w/lib/B.vc")
        (Bytes.lit "dist/lib/B.js") := by
  have hstart :
      start (distJob.buildAll mixedSession overlappingPaths false).1.tree overlappingPaths =
      .ok overlappingWatcher := by
    decide +kernel
  have hmem : (⟨Bytes.lit "/w", Bytes.lit "/w/lib/B.vc", Bytes.lit "dist/lib/B.js"⟩ : Compilation) ∈
      distJob.compilations false mixedSession overlappingPaths := by
    decide +kernel
  have hsource :
      Path.absolute mixedTree.cwd (Bytes.lit "/w/lib/B.vc") = Bytes.lit "/w/lib/B.vc" := by decide
  have hout :
      (Component.compileFileInRoot mixedTree (overlappingWatcher.rootOf (Bytes.lit "/w/lib/B.vc"))
      (Bytes.lit "/w/lib/B.vc") [] distJob.options).2.result = .ok (Bytes.lit "dist/lib/B.js") := by
    decide +kernel
  have hgiven : distJob.name = ({} : Cli.Arguments).name := rfl
  have hfault : ({} : Cli.Arguments).nameFault? mixedTree overlappingPaths = none := rfl
  obtain ⟨_, _, hreplaces, _⟩ :=
    rebuild_replaces_iff ordered_mixedTree hgiven hfault rfl hstart hmem hsource [] rfl hout
  exact ⟨hstart, hout, hreplaces (.inr ⟨_, hmem, hsource, by decide +kernel⟩)⟩

/-- A file, and another one in a directory below. -/
def filePaths : List Bytes := [Bytes.lit "A.vc", Bytes.lit "lib/B.vc"]

def fileWatcher : Watcher where
  roots := [Bytes.lit "/w", Bytes.lit "/w/lib"]
  files := [Bytes.lit "/w/A.vc", Bytes.lit "/w/lib/B.vc"]
  watched := [Bytes.lit "/w", Bytes.lit "/w/dist", Bytes.lit "/w/lib"]

set_option maxRecDepth 100000 in
/-- The directory of the first file holds the other one, so a rebuild of that writes a new file and
leaves the one of the first build behind. -/
theorem rebuild_misses_output :
    (distJob.buildAll mixedSession filePaths false).2 = .ok () ∧
      distJob.compilations false mixedSession filePaths =
        [⟨Bytes.lit ".", Bytes.lit "A.vc", Bytes.lit "dist/A.js"⟩,
          ⟨Bytes.lit "lib", Bytes.lit "lib/B.vc", Bytes.lit "dist/B.js"⟩] ∧
      start (distJob.buildAll mixedSession filePaths false).1.tree filePaths = .ok fileWatcher ∧
      fileWatcher.isDueOnWrite mixedTree (Bytes.lit ".vc") (Bytes.lit "/w/lib/B.vc") ∧
      (Component.compileFileInRoot mixedTree (fileWatcher.rootOf (Bytes.lit "/w/lib/B.vc"))
        (Bytes.lit "/w/lib/B.vc") [] distJob.options).2.result = .ok (Bytes.lit "dist/lib/B.js") ∧
      ¬distJob.CompilesTo false mixedSession filePaths (Bytes.lit "/w/lib/B.vc")
        (Bytes.lit "dist/lib/B.js") := by
  have hcompilations : distJob.compilations false mixedSession filePaths =
      [⟨Bytes.lit ".", Bytes.lit "A.vc", Bytes.lit "dist/A.js"⟩,
        ⟨Bytes.lit "lib", Bytes.lit "lib/B.vc", Bytes.lit "dist/B.js"⟩] := by
    decide +kernel
  refine ⟨by decide +kernel, hcompilations, by decide +kernel, by decide +kernel, by
    decide +kernel, ?_⟩
  unfold Job.CompilesTo
  rw [hcompilations]
  decide

end ComponentCompiler.Watcher
