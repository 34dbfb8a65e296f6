import ComponentCompiler.Proofs.TreeGrowth
import Mathlib

/-!
# Which sources are found, and in which order

A search lists the files below its root whose names have the extension and that no skipped
directory hides, each once. It walks every directory in byte order of the names and a directory
before what it holds, so the paths that it lists ascend component by component, which is not the
byte order of the paths.
-/

namespace ComponentCompiler.Path

/-- `p` comes before `q` when their components are compared one by one in byte order. -/
def Before (p q : Bytes) : Prop := List.Lex (Bytes.lt · ·) (components p) (components q)

variable {absolute : Bool} {cs ds es : List Bytes}

/-- Behind what two paths have in common, the rest decides. -/
theorem before_ofComponents (hds : IsClean absolute (cs ++ ds)) (hes : IsClean absolute (cs ++ es))
    (h : List.Lex (Bytes.lt · ·) ds es) :
    Before (ofComponents absolute (cs ++ ds)) (ofComponents absolute (cs ++ es)) := by
  rw [Before, components_ofComponents fun _ hc => hds.eq_dotDot_or_isProper hc,
    components_ofComponents fun _ hc => hes.eq_dotDot_or_isProper hc]
  exact List.Lex.append_left _ h cs

theorem not_before_self (p : Bytes) : ¬Before p p := by
  unfold Before
  induction components p with
  | nil => exact nofun
  | cons c cs ih =>
      intro h
      cases h with
      | rel hlt => exact Bytes.not_lt_self c hlt
      | cons h => exact ih h

theorem join_clean {p : Bytes} (hp : p ≠ []) (qs : List Bytes) :
    join (clean p :: qs) = join (p :: qs) := by
  rw [join_cons (clean_ne_nil p), join_cons hp, cleanComponents_clean, clean,
    isAbsolute_ofComponents_of_isClean (isClean_cleanComponents p)]

end ComponentCompiler.Path

namespace ComponentCompiler.Entry

open ComponentCompiler.Path (IsProper IsClean Before)

variable {enter : Bytes → Bool}

/-! ## The order of a walk -/

/-- A walk from a path is one from its clean form. -/
theorem walk_clean {root : Bytes} (hroot : root ≠ []) (es : List (Bytes × Entry)) :
    walk enter root es =
      descendants enter (Path.ofComponents (Path.isAbsolute root) (Path.cleanComponents root))
        (directory es) := by
  rw [← Path.clean, descendants, walk_eq_flatMap, walk_eq_flatMap]
  apply List.flatMap_congr
  rintro ⟨name, x⟩ _
  rw [visit, visit, Path.join_clean hroot]

theorem WellNamed.isProper_of_get? {e x : Entry} (he : e.WellNamed) {cs : List Bytes}
    (h : e.get? cs = some x) : ∀ c ∈ cs, IsProper c := by
  induction cs generalizing e with
  | nil => exact List.forall_mem_nil _
  | cons c cs ih =>
      cases he with
      | file content => cases h
      | @directory es hproper hnodup hes =>
          rw [Entry.get?] at h
          cases hlookup : es.lookup c with
          | none => simp [hlookup] at h
          | some y =>
              rw [hlookup] at h
              have hmem := mem_of_lookup_eq hlookup
              exact List.forall_mem_cons.mpr ⟨hproper _ hmem, ih (hes _ hmem) h⟩

/-- In a tree whose directories are in order, a walk meets paths in ascending order of their
components. -/
theorem Ordered.pairwise_descendants {e : Entry} (he : e.Ordered) {absolute : Bool}
    {cs : List Bytes} (hcs : IsClean absolute cs) :
    (descendants enter (Path.ofComponents absolute cs) e).Pairwise fun v w =>
      Before v.path w.path := by
  induction he generalizing cs with
  | file content => exact .nil
  | @directory es hproper hsorted hes ih =>
      rw [descendants, walk_eq_flatMap, List.pairwise_flatMap]
      constructor
      · rintro ⟨name, x⟩ hx
        have hname : IsProper name := hproper _ hx
        have hnext : IsClean absolute (cs ++ [name]) := hcs.append (by simpa using hname)
        rw [visit]
        split
        · exact .nil
        · rw [Path.join_ofComponents hcs hname]
          refine List.pairwise_cons.mpr ⟨?_, ih _ hx hnext⟩
          -- a directory stands before what it holds, being the beginning of its path
          intro v hv
          obtain ⟨d, ds, hpath, hclean⟩ := ((hes _ hx).wellNamed.isBelow hnext hv).exists_path hnext
          rw [hpath]
          have hfront : IsClean absolute (cs ++ [name] ++ []) := by rwa [List.append_nil]
          have hbefore := Path.before_ofComponents hfront hclean List.Lex.nil
          rwa [List.append_nil] at hbefore
      · refine hsorted.imp_of_mem ?_
        rintro ⟨name, x⟩ ⟨name', x'⟩ hx hx' hlt v hv w hw
        obtain ⟨ds, hds, hclean⟩ :=
          (hes _ hx).wellNamed.exists_path_of_mem_visit hcs (hproper _ hx) hv
        obtain ⟨ds', hds', hclean'⟩ :=
          (hes _ hx').wellNamed.exists_path_of_mem_visit hcs (hproper _ hx') hw
        rw [hds, hds']
        exact Path.before_ofComponents hclean hclean' (List.Lex.rel hlt)

end ComponentCompiler.Entry

namespace ComponentCompiler.Component

open ComponentCompiler.Path (IsProper IsClean Before)

variable {t : FileTree} {root ext p : Bytes} {es : List (Bytes × Entry)} {cs : List Bytes}

/-! ## The sources below a directory -/

/-- The components `cs` lead from a directory with the entries `es` to a source: what is there is no
directory, its name ends with `ext`, and no directory on the way is hidden or holds dependencies or
test data. -/
structure LeadsToSource (es : List (Bytes × Entry)) (ext : Bytes) (cs : List Bytes) : Prop where
  entry : ∃ x, (Entry.directory es).get? cs = some x ∧ x.isDirectory = false
  name : ∃ name, cs.getLast? = some name ∧ ext <:+ name
  way :
    ∀ d ∈ cs.dropLast, d.head? ≠ some Ascii.dot ∧ d ≠ Bytes.lit "node_modules" ∧
      d ≠ Bytes.lit "testdata"

theorem isSkipped_eq_false_iff {d : Bytes} : isSkipped d = false ↔
    d.head? ≠ some Ascii.dot ∧ d ≠ Bytes.lit "node_modules" ∧ d ≠ Bytes.lit "testdata" := by
  simp [isSkipped, isHidden, skippedDirectories]

theorem mem_sources_iff (hes : (Entry.directory es).WellNamed) (hroot : root ≠ []) :
    p ∈ ((Entry.walk (fun name => !isSkipped name) root es).filter (isSource ext)).map (·.path) ↔
      ∃ cs, LeadsToSource es ext cs ∧ p = Path.join (root :: cs) := by
  have hclean := Path.isClean_cleanComponents root
  rw [Entry.walk_clean hroot]
  constructor
  · intro hp
    obtain ⟨v, hv, rfl⟩ := List.mem_map.mp hp
    obtain ⟨hmem, hsource⟩ := List.mem_filter.mp hv
    obtain ⟨ds, hpath, hget, hds, hname⟩ := hes.isBelow hclean hmem
    obtain ⟨hfile, hending⟩ := Bool.and_eq_true_iff.mp hsource
    refine ⟨ds ++ [v.name], ⟨⟨v.entry, hget, by simpa using hfile⟩, ⟨v.name, by simp, ?_⟩, ?_⟩, ?_⟩
    · exact List.isSuffixOf_iff_suffix.mp hending
    · rw [List.dropLast_concat]
      intro d hd
      exact isSkipped_eq_false_iff.mp (by simpa using (hds d hd).2)
    · rw [hpath, Path.join_of_isProper hroot (hes.isProper_of_get? hget)]
  · rintro ⟨cs, ⟨⟨x, hget, hfile⟩, ⟨name, hlast, hending⟩, hway⟩, rfl⟩
    obtain ⟨ds, rfl⟩ := List.getLast?_eq_some_iff.mp hlast
    rw [List.dropLast_concat] at hway
    have hproper := hes.isProper_of_get? hget
    have hds : ∀ d ∈ ds, IsProper d ∧ (!isSkipped d) = true := by
      intro d hd
      exact ⟨hproper d (by simp [hd]), by simp [isSkipped_eq_false_iff.mpr (hway d hd)]⟩
    have hvisit := Entry.mem_descendants_of_get? hclean hds (hproper name (by simp))
      (fun hdir => absurd hdir (by simp [hfile])) hget
    refine List.mem_map.mpr ⟨_, List.mem_filter.mpr ⟨hvisit, ?_⟩, ?_⟩
    · exact Bool.and_eq_true_iff.mpr ⟨by simp [hfile], List.isSuffixOf_iff_suffix.mpr hending⟩
    · rw [Path.join_of_isProper hroot hproper]

/-- Different places have different paths. -/
theorem injOn_join (hes : (Entry.directory es).WellNamed) (hroot : root ≠ []) :
    Set.InjOn (fun cs => Path.join (root :: cs)) {cs | LeadsToSource es ext cs} := by
  rintro cs ⟨⟨x, hx, _⟩, _, _⟩ ds ⟨⟨y, hy, _⟩, _, _⟩ heq
  have hcs := hes.isProper_of_get? hx
  have hds := hes.isProper_of_get? hy
  have hclean := Path.isClean_cleanComponents root
  simp only [Path.join_of_isProper hroot hcs, Path.join_of_isProper hroot hds] at heq
  exact List.append_cancel_left (Path.ofComponents_inj (hclean.append hcs) (hclean.append hds) heq)

/-- A search finds every source once and nothing else. Below a root directory, whatever its own name
is, the search lists the paths of just the places that lead to a source, each once and in ascending
order when paths are compared component by component. -/
theorem discover_lists_sources (ht : t.Ordered) (hroot : t.entry root = .ok (.directory es))
    (ext : Bytes) :
    ∃ sources, discover t root ext = .ok sources ∧ sources.Nodup ∧
      (∀ p, p ∈ sources ↔ ∃ cs, LeadsToSource es ext cs ∧ p = Path.join (root :: cs)) ∧
      Set.InjOn (fun cs => Path.join (root :: cs)) {cs | LeadsToSource es ext cs} ∧
      sources.Pairwise Before := by
  have hne : root ≠ [] := by
    rintro rfl
    cases hroot
  have hordered : (Entry.directory es).Ordered :=
    ht.entries.get? (FileTree.get?_of_entry ht.rooted hroot)
  have hbefore :
      (Entry.walk (fun name => !isSkipped name) root es).Pairwise fun v w =>
        Before v.path w.path := by
    rw [Entry.walk_clean hne]
    exact hordered.pairwise_descendants (Path.isClean_cleanComponents root)
  have hsources := List.pairwise_map.mpr (hbefore.filter (isSource ext))
  refine ⟨_, ?_, ?_, fun p => mem_sources_iff hordered.wellNamed hne,
    injOn_join hordered.wellNamed hne, hsources⟩
  · rw [discover, FileTree.stat, hroot]
    rfl
  · refine hsources.imp ?_
    rintro p _ hlt rfl
    exact Path.not_before_self p hlt

/-- Empty files put into an entry one after another. -/
def putFiles (files : List (List Bytes)) (e : Entry) : Entry :=
  files.foldl (fun e cs => Entry.put (.file []) cs e) e

theorem ordered_putFiles {files : List (List Bytes)} (h : ∀ cs ∈ files, ∀ c ∈ cs, IsProper c)
    {e : Entry} (he : e.Ordered) :
    (putFiles files e).Ordered := by
  induction files generalizing e with
  | nil => exact he
  | cons cs files ih =>
      obtain ⟨hcs, hfiles⟩ := List.forall_mem_cons.mp h
      exact ih hfiles (Entry.Ordered.put (.file []) hcs he)

/-- Files below a directory of dependencies: behind a directory that looks like a source, behind
directories that are skipped, and one that is hidden itself. -/
def dependencyFiles : List (List Bytes) :=
  ["a.vc/z.vc", "a/a.vc", "a/testdata/a.vc", "a.vc/a.js", ".git/a.vc", ".b.vc"].map fun path =>
    Path.components (Bytes.lit "w/node_modules/" ++ Bytes.lit path)

def dependencyTree : FileTree := ⟨putFiles dependencyFiles (.directory []), [Bytes.lit "w"]⟩

theorem ordered_dependencyTree : dependencyTree.Ordered where
  rooted := ⟨by decide, by decide⟩
  entries := ordered_putFiles (by decide) (.directory (by simp) .nil (by simp))

theorem discover_lists_sources_dependency :
    dependencyTree.Ordered ∧ ∃ sources,
      discover dependencyTree (Bytes.lit "node_modules/.") (Bytes.lit ".vc") = .ok sources ∧
      sources = [Bytes.lit "node_modules/.b.vc", Bytes.lit "node_modules/a/a.vc",
        Bytes.lit "node_modules/a.vc/z.vc"] ∧
      sources.Nodup ∧ sources.Pairwise Before := by
  have hroot : ∃ es, dependencyTree.entry (Bytes.lit "node_modules/.") = .ok (.directory es) :=
    ⟨_, rfl⟩
  obtain ⟨es, hes⟩ := hroot
  obtain ⟨sources, hsources, hnodup, _, _, hbefore⟩ :=
    discover_lists_sources ordered_dependencyTree hes (Bytes.lit ".vc")
  have hlisted : discover dependencyTree (Bytes.lit "node_modules/.") (Bytes.lit ".vc") =
      .ok [Bytes.lit "node_modules/.b.vc", Bytes.lit "node_modules/a/a.vc",
        Bytes.lit "node_modules/a.vc/z.vc"] := by
    decide +kernel
  exact ⟨ordered_dependencyTree, sources, hsources, Except.ok.inj (hsources.symm.trans hlisted),
    hnodup, hbefore⟩

end ComponentCompiler.Component
