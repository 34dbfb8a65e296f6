import ComponentCompiler.Proofs.BlockOrder
import ComponentCompiler.Proofs.SourceSafety
import Mathlib

/-!
# When a source is lost

If the output extension ends with the extension of the sources, an output can have the name of
another source. Then a run writes over it, unless the extension of the sources has two dots and
nothing is built at all. So for output extensions without a slash it is known which settings spare
all sources.
-/

namespace ComponentCompiler.Entry

open ComponentCompiler.Path (IsProper)

/-- An entry below directories of the given names, with nothing else in them. -/
def nest : List Bytes → Entry → Entry
  | [], e => e
  | d :: ds, e => directory [(d, nest ds e)]

theorem get?_nest (ds : List Bytes) (e : Entry) (cs : List Bytes) :
    (nest ds e).get? (ds ++ cs) = e.get? cs := by
  induction ds with
  | nil => rfl
  | cons d ds ih =>
      rw [nest, List.cons_append, Entry.get?, lookup_cons, if_pos rfl]
      exact ih

theorem WellNamed.nest {ds : List Bytes} (hds : ∀ d ∈ ds, IsProper d) {e : Entry}
    (he : e.WellNamed) :
    (nest ds e).WellNamed := by
  induction ds with
  | nil => exact he
  | cons d ds ih =>
      obtain ⟨hd, hds⟩ := List.forall_mem_cons.mp hds
      exact .directory (List.forall_mem_singleton.mpr hd) (List.nodup_singleton _)
        (List.forall_mem_singleton.mpr (ih hds))

end ComponentCompiler.Entry

namespace ComponentCompiler.Component

open ComponentCompiler.Path (IsProper IsClean)

/-! ## A component that compiles under all options -/

def bareSource : Bytes := Bytes.lit "<template a></template>"

def bareDocument : Markup.Document := { templates := [Template.templateNamed (Bytes.lit "a") [] 1] }

set_option maxRecDepth 100000 in
theorem exists_compileDocument_bare (options : Options) :
    ∃ code, (compileDocument bareDocument (Bytes.lit "A") options).result = .ok code := by
  have hmain : bareDocument.templates.countP (Template.matchesName (Bytes.lit "A")) = 1 := by cbv
  have hkeys : Template.KeysDiffer bareDocument.templates :=
    ⟨List.forall_mem_singleton.mpr (by cbv), List.nodup_singleton _⟩
  have hsanitary : IsSanitary bareDocument options := fun _ => List.forall_mem_singleton.mpr rfl
  have hmatches :
      Template.matchesName (Bytes.lit "A") (Template.templateNamed (Bytes.lit "a") [] 1) := by cbv
  have hsubs : subTemplates (Bytes.lit "A") bareDocument = [] := by cbv
  have hsome : (Script.locate (behavior bareDocument (Bytes.lit "A")).text).toOption.isSome := by
    decide +kernel
  obtain ⟨c, hc⟩ := exists_eq_ok hsome
  refine ⟨_, (compileDocument_eq_ok_iff hmain).mpr ⟨hkeys, hsanitary,
    (Render.Expr.call options.withDefaults.container [] []).print 1, [], c, ?_, ?_, hc, rfl⟩⟩
  · exact ⟨_, List.mem_singleton_self _, hmatches, rfl⟩
  · rw [hsubs]
    exact .nil

set_option maxRecDepth 100000 in
theorem exists_compileSource_bare (options : Options) :
    ∃ code, (compileSource { bytes := bareSource } (Bytes.lit "A") options).result = .ok code := by
  have hparse : Markup.parse bareSource = [Template.templateNamed (Bytes.lit "a") [] 1] := by cbv
  obtain ⟨code, hcode⟩ := exists_compileDocument_bare options
  refine ⟨code, ?_⟩
  unfold compileSource Source.parse
  rw [hparse]
  exact mapError_eq_ok.mpr hcode

theorem exists_generate {t : FileTree} {root p src code : Bytes} {opts : Options}
    (hsrc : t.read p = .ok src)
    (hident : Script.isIdentifier (upperFirst (stem p)))
    (hcode : (compileSource { bytes := src } (upperFirst (stem p)) opts).result = .ok code) :
    ∃ g, (generate t root p [] opts).result = .ok g := by
  have hname : nameFor p [] = .ok (upperFirst (stem p)) := by
    rw [nameFor, if_pos rfl, componentName]
    exact mapError_eq_ok.mpr (if_pos hident)
  exact ⟨_, Report.bind_eq_ok.mpr ⟨_, hname, Report.bind_eq_ok.mpr ⟨_, mapError_eq_ok.mpr hsrc,
    Report.bind_eq_ok.mpr ⟨_, mapError_eq_ok.mpr hcode, rfl⟩⟩⟩⟩

/-! ## A source with the name of an output -/

/-- The directory that outputs go to when sources are searched there. -/
def outputRoot (options : Options) : Bytes :=
  Path.ofComponents (outAbsolute options) (outBase options [])

/-- Its components, seen from the root of a tree. -/
def outputRootComponents (options : Options) : List Bytes :=
  FileTree.locate ⟨.directory [], []⟩ (outputRoot options)

def sourceName (options : Options) : Bytes := Bytes.lit "A" ++ options.withDefaults.extension

def outputName (options : Options) : Bytes := Bytes.lit "A" ++ options.withDefaults.outExtension

/-- The source of a component, and a file that has the name of its output. -/
def rivalEntries (options : Options) : List (Bytes × Entry) :=
  [(sourceName options, .file bareSource), (outputName options, .file [])]

def rivalTree (options : Options) : FileTree where
  root := Entry.nest (outputRootComponents options) (.directory (rivalEntries options))
  workingDirectory := []

/-- The path of a file in the directory. -/
def rivalPath (options : Options) (name : Bytes) : Bytes :=
  Path.ofComponents true (outputRootComponents options ++ [name])

section

variable (options : Options)

theorem isClean_outputRootComponents : IsClean true (outputRootComponents options) := by
  have hrooted : FileTree.Rooted ⟨.directory [], []⟩ := ⟨by simp, rfl⟩
  exact (hrooted.absolute_eq (outputRoot options)).2

theorem get?_rivalTree (cs : List Bytes) :
    (rivalTree options).root.get? (outputRootComponents options ++ cs) =
      (Entry.directory (rivalEntries options)).get? cs := Entry.get?_nest _ _ _

theorem get?_rivalTree_outputRoot :
    (rivalTree options).root.get? (outputRootComponents options) =
      some (.directory (rivalEntries options)) := by
  have hget := get?_rivalTree options []
  rwa [List.append_nil] at hget

theorem isDirectoryAt_rivalTree :
    (rivalTree options).root.isDirectoryAt (outputRootComponents options) := by
  rw [Entry.isDirectoryAt, get?_rivalTree_outputRoot]
  rfl

theorem rooted_rivalTree : (rivalTree options).Rooted where
  proper := fun _ hc => by cases hc
  isDirectory := Entry.isDirectoryAt_mono (isDirectoryAt_rivalTree options) List.nil_prefix

theorem absolute_outputRoot : Path.absolute (rivalTree options).cwd (outputRoot options) =
    Path.ofComponents true (outputRootComponents options) :=
  ((rooted_rivalTree options).absolute_eq (outputRoot options)).1

theorem fileAt?_sourceName :
    (rivalTree options).root.fileAt? (outputRootComponents options ++ [sourceName options]) =
      some bareSource := by
  rw [Entry.fileAt?, get?_rivalTree]
  simp [rivalEntries, Entry.get?, Entry.content?]

/-- Outputs of sources in the directory go to the directory. -/
theorem outBase_outputRootComponents :
    outBase options (outputRootComponents options) = outBase options [] := by
  unfold outBase
  by_cases hdir : options.outDir = []
  · rw [if_pos hdir, if_pos hdir, outputRootComponents, outputRoot, outBase, if_pos hdir,
      outAbsolute, hdir]
    rfl
  · rw [if_neg hdir, if_neg hdir]

theorem isClean_outBase_nil : IsClean (outAbsolute options) (outBase options []) :=
  isClean_outBase (Path.isClean_of_isProper (by simp)) options

variable {options} {name : Bytes} (hname : IsProper name)

include hname

theorem isClean_rivalPath : IsClean true (outputRootComponents options ++ [name]) :=
  (isClean_outputRootComponents options).append (by simpa using hname)

theorem clean_rivalPath : Path.clean (rivalPath options name) = rivalPath options name :=
  Path.clean_ofComponents (isClean_rivalPath hname)

theorem locate_rivalPath :
    (rivalTree options).locate (rivalPath options name) = outputRootComponents options ++ [name] :=
  (rooted_rivalTree options).locate_of_isClean (isClean_rivalPath hname)

end

/-- Extensions under which an output can have the name of another source. -/
structure RivalExtensions (options : Options) : Prop extends CheckedExtensions options where
  slash : Ascii.slash ∉ options.withDefaults.outExtension
  ending : options.withDefaults.outExtension.endsWith options.withDefaults.extension
  single : Ascii.dot ∉ options.withDefaults.extension.tail

namespace RivalExtensions

variable {options : Options} (h : RivalExtensions options)

include h

theorem isProper_outputName : IsProper (outputName options) :=
  Component.isProper_outputName (by decide +kernel) h.slash

theorem isProper_sourceName : IsProper (sourceName options) := by
  apply Component.isProper_outputName (by decide +kernel)
  intro hmem
  exact h.slash ((List.isSuffixOf_iff_suffix.mp h.ending).subset hmem)

theorem sourceName_ne : sourceName options ≠ outputName options :=
  fun heq => h.differ (List.append_cancel_left heq)

theorem wellFormed : (rivalTree options).WellFormed where
  rooted := rooted_rivalTree options
  wellNamed := by
    apply Entry.WellNamed.nest (isClean_outputRootComponents options).isProper
    refine .directory ?_ ?_ ?_
    · simpa [rivalEntries] using ⟨h.isProper_sourceName, h.isProper_outputName⟩
    · simpa [rivalEntries] using h.sourceName_ne
    · simpa [rivalEntries] using ⟨.file _, .file _⟩

theorem endsWith_names : (sourceName options).endsWith options.withDefaults.extension ∧
    (outputName options).endsWith options.withDefaults.extension := by
  constructor
  · exact List.isSuffixOf_iff_suffix.mpr (List.suffix_append _ _)
  · exact List.isSuffixOf_iff_suffix.mpr
      ((List.isSuffixOf_iff_suffix.mp h.ending).trans (List.suffix_append _ _))

theorem discover_eq :
    discover (rivalTree options) (Path.absolute (rivalTree options).cwd (outputRoot options))
      options.withDefaults.extension =
        .ok [rivalPath options (sourceName options), rivalPath options (outputName options)] := by
  have hclean := isClean_outputRootComponents options
  have hget := get?_rivalTree_outputRoot options
  rw [absolute_outputRoot, discover_of_get? (rooted_rivalTree options) hclean hget]
  simp [rivalEntries, rivalPath, Entry.descendants, Entry.walk, Entry.visit, Entry.isDirectory,
    isSource, h.endsWith_names, Path.join_ofComponents hclean h.isProper_sourceName,
    Path.join_ofComponents hclean h.isProper_outputName]

theorem fileAt?_outputName :
    (rivalTree options).root.fileAt? (outputRootComponents options ++ [outputName options]) =
      some [] := by
  rw [Entry.fileAt?, get?_rivalTree]
  simp [rivalEntries, Entry.get?, Entry.lookup_cons, h.sourceName_ne.symm, Entry.content?]

theorem sourceAt :
    SourceAt (rivalTree options) (outputRootComponents options) [] (sourceName options)
    (rivalPath options (sourceName options)) where
  path_eq := by rw [List.append_nil, rivalPath]
  clean := by
    rw [List.append_nil]
    exact isClean_rivalPath h.isProper_sourceName
  entered := fun _ hd => by cases hd
  isFile := by
    rw [List.append_nil]
    exact ⟨_, fileAt?_sourceName options⟩

theorem stem_source :
    upperFirst (stem (rivalPath options (sourceName options))) = Bytes.lit "A" := by
  obtain ⟨rest, hrest⟩ := h.extension
  have hproper := h.isProper_sourceName
  have hsingle := h.single
  rw [sourceName, hrest] at hproper
  rw [hrest] at hsingle
  rw [rivalPath, sourceName, hrest, stem_ofComponents hproper hsingle]
  decide

theorem outputOf_source :
    outputOf (Path.absolute (rivalTree options).cwd (outputRoot options)) options
        (rivalPath options (sourceName options)) =
      Path.ofComponents (outAbsolute options) (outBase options [] ++ [outputName options]) := by
  rw [outputOf, h.stem_source, absolute_outputRoot,
    h.sourceAt.liesBelow.outputPath_eq h.isProper_outputName, outBase_outputRootComponents,
    List.nil_append, outputName]

theorem place_source :
    place (rivalTree options) (Path.absolute (rivalTree options).cwd (outputRoot options)) options
        (rivalPath options (sourceName options)) =
      outputRootComponents options ++ [outputName options] := by
  rw [place, h.outputOf_source,
    (rooted_rivalTree options).locate_append (isClean_outBase_nil options)
      (by simpa using h.isProper_outputName)]
  rfl

theorem placeDirectory_source :
    placeDirectory (rivalTree options) (Path.absolute (rivalTree options).cwd (outputRoot options))
      options
        (rivalPath options (sourceName options)) = outputRootComponents options := by
  rw [placeDirectory, h.outputOf_source,
    Path.dir_ofComponents (isClean_outBase_nil options) h.isProper_outputName.slash]
  rfl

theorem isSourceFile :
    IsSourceFile (rivalTree options) (rivalPath options (sourceName options)) where
  clean := clean_rivalPath h.isProper_sourceName
  isFile := by
    rw [locate_rivalPath h.isProper_sourceName]
    exact ⟨_, fileAt?_sourceName options⟩

theorem read_source :
    (rivalTree options).read (rivalPath options (sourceName options)) = .ok bareSource := by
  rw [(rooted_rivalTree options).read_eq_ok_iff h.isSourceFile.clean,
    locate_rivalPath h.isProper_sourceName, fileAt?_sourceName]

/-- Nothing is in the way of building the first source alone. -/
theorem buildable : Buildable (rivalTree options)
    (Path.absolute (rivalTree options).cwd (outputRoot options)) options
    [rivalPath options (sourceName options)] where
  generated := by
    rw [List.forall_mem_singleton]
    obtain ⟨code, hcode⟩ := exists_compileSource_bare options.withDefaults
    exact exists_generate h.read_source (by rw [h.stem_source]; decide +kernel)
      (by rwa [h.stem_source])
  way := by
    rw [List.forall_mem_singleton, h.placeDirectory_source]
    intro cs hcs
    have hdir := Entry.isDirectoryAt_mono (isDirectoryAt_rivalTree options) hcs
    refine ⟨Entry.fileAt?_eq_none_of_isDirectoryAt hdir, ?_⟩
    rw [List.forall_mem_singleton, h.place_source]
    rintro rfl
    have hlength := hcs.length_le
    simp at hlength
  free := by
    rw [List.forall_mem_singleton, h.place_source]
    intro hdir
    have hnone := Entry.fileAt?_eq_none_of_isDirectoryAt hdir
    rw [h.fileAt?_outputName] at hnone
    cases hnone

theorem separate : Separate (rivalTree options)
    (Path.absolute (rivalTree options).cwd (outputRoot options)) options
    [rivalPath options (sourceName options)] where
  rooted := rooted_rivalTree options
  files := List.forall_mem_singleton.mpr h.isSourceFile
  spares := by
    intro p hp q hq _
    rw [List.mem_singleton.mp hp, List.mem_singleton.mp hq]
  agree := by
    intro p hp q hq _ x y hx hy
    obtain rfl : p = q := (List.mem_singleton.mp hp).trans (List.mem_singleton.mp hq).symm
    exact hx.unique hy

/-- The first source is built, and the second has no turn. -/
def run : Run options where
  tree := rivalTree options
  root := outputRoot options
  sources := [rivalPath options (sourceName options), rivalPath options (outputName options)]
  schedule := List.replicate 3 (rivalPath options (sourceName options))
  wellFormed := h.wellFormed
  discovered := h.discover_eq
  scheduled := by simp

theorem wrote_run : h.run.Wrote (rivalPath options (sourceName options)) := by
  -- the second source takes no turn, so the first is built as if it were alone
  have hturns : ∀ p ∈ h.run.schedule, p ∈ [rivalPath options (sourceName options)] := fun p hp =>
    List.mem_singleton.mpr (List.eq_of_mem_replicate hp)
  have hthree : ∀ p ∈ [rivalPath options (sourceName options)], 3 ≤ h.run.schedule.count p := by
    rw [List.forall_mem_singleton, run, List.count_replicate_self]
  exact Batch.isFinished_of_buildable h.separate h.buildable hturns hthree _
    (List.mem_singleton_self _)

theorem not_spares_run : ¬h.run.Spares := by
  intro hspares
  have hplace := h.place_source.trans (locate_rivalPath h.isProper_outputName).symm
  exact hspares _ (by simp [run]) h.wrote_run (rivalPath options (outputName options))
    (by simp [run]) hplace

end RivalExtensions

/-! ## Which settings spare all sources -/

theorem forall_spares_iff {options : Options} (hopts : CheckedExtensions options)
    (hslash : Ascii.slash ∉ options.withDefaults.outExtension) :
    (∀ r : Run options, r.Spares) ↔
      options.withDefaults.outExtension.endsWith options.withDefaults.extension = false ∨
        Ascii.dot ∈ options.withDefaults.extension.tail := by
  constructor
  · intro hspares
    by_contra hneither
    rw [not_or, Bool.not_eq_false] at hneither
    have hrival : RivalExtensions options := ⟨hopts, hslash, hneither.1, hneither.2⟩
    exact hrival.not_spares_run (hspares _)
  · rintro (hends | hdot) r
    · exact Run.spares_of_not_endsWith hopts (fun hmem => absurd hmem hslash) hends r
    · obtain ⟨rest, hrest⟩ := hopts.extension
      rw [hrest] at hdot
      exact fun p hp hwrote => absurd hwrote (Run.not_wrote_of_dot_mem hrest hdot hp)

/-- What settings without faults guarantee. If the output extension gives a file name and does not
end with the extension of the sources, no run writes over a source. Without a slash in it, no run
does so exactly if it does not end that way or the extension of the sources has two dots, and in any
case a run that builds every source spares them all. Building a directory then leaves its sources as
they were. -/
theorem spares_sources_iff {s : Settings} (hs : s.faults = []) (logger : Option Logger) :
    (HasFileName s.outExtension → s.outExtension.endsWith s.extension = false →
      ∀ r : Run (s.options logger), r.Spares) ∧
    (Ascii.slash ∉ s.outExtension →
      ((∀ r : Run (s.options logger), r.Spares) ↔
        s.outExtension.endsWith s.extension = false ∨ Ascii.dot ∈ s.extension.tail) ∧
      ∀ r : Run (s.options logger), r.batch.IsFinished r.sources → r.Spares) ∧
    ∀ t root sources canceled, t.WellFormed →
      discover t (Path.absolute t.cwd root) s.extension = .ok sources →
      (∀ r : Run (s.options logger), r.Spares) ∨ Ascii.slash ∉ s.outExtension ∧
        (∃ outputs, (compileDirectory t root (s.options logger) canceled).2.result = .ok outputs) →
      ∀ q ∈ sources, (compileDirectory t root (s.options logger) canceled).1.read q = t.read q := by
  have hopts := checkedExtensions_of_faults hs logger
  have hext := withDefaults_extension hs logger
  have hout := withDefaults_outExtension hs logger
  refine ⟨?_, ?_, ?_⟩
  · intro hname hends
    rw [← hout] at hname
    rw [← hout, ← hext] at hends
    exact Run.spares_of_not_endsWith hopts hname hends
  · intro hslash
    rw [← hout] at hslash
    refine ⟨?_, fun r hfinished => Run.spares_of_isFinished hopts hslash hfinished⟩
    rw [forall_spares_iff hopts hslash, hout, hext]
  · intro t root sources canceled ht hsources hspares q hq
    rw [← hext] at hsources
    obtain ⟨r, rfl, rfl, htree, hfinished⟩ := Run.exists_run_compileDirectory ht hsources canceled
    have hr : r.Spares := by
      rcases hspares with hspares | ⟨hslash, outputs, hok⟩
      · exact hspares r
      · rw [← hout] at hslash
        exact Run.spares_of_isFinished hopts hslash (hfinished outputs hok)
    rw [htree]
    exact hr.read_eq hq

set_option maxRecDepth 100000 in
theorem spares_sources_iff_default : ({} : Settings).faults = [] ∧
    (∀ r : Run (({} : Settings).options none), r.Spares) ∧
    ∀ q ∈ nestedSources,
      (compileDirectory nestedTree (Bytes.lit ".") (({} : Settings).options none) false).1.read q =
        nestedTree.read q := by
  have hfaults : ({} : Settings).faults = [] := by decide +kernel
  obtain ⟨_, hplain, hbuild⟩ := spares_sources_iff hfaults none
  have hspares := (hplain (by decide)).1.mpr (.inl (by decide))
  refine ⟨hfaults, hspares, ?_⟩
  exact hbuild nestedTree (Bytes.lit ".") nestedSources false wellFormed_nestedTree
    (by decide +kernel)
    (.inl hspares)

/-- A single source whose output is the source itself. -/
def ownOutputTree : FileTree where
  root := .directory [(Bytes.lit "w", .directory [
    (Bytes.lit "Counter.vc", .file (Bytes.lit "<template counter></template>"))])]
  workingDirectory := [Bytes.lit "w"]

def ownOutputSettings : Settings :=
  { extension := Bytes.lit ".vc", outExtension := Bytes.lit ".vc/" }

/-- A source whose output is the second source, which gives no component name. -/
def secondSourceTree : FileTree where
  root := .directory [(Bytes.lit "w", .directory [
    (Bytes.lit "Counter.js", .file (Bytes.lit "<template counter></template>")),
    (Bytes.lit "Counter.out.js", .file (Bytes.lit "<template x></template>"))])]
  workingDirectory := [Bytes.lit "w"]

def secondSourceSettings : Settings :=
  { extension := Bytes.lit ".js", outExtension := Bytes.lit ".out.js" }

set_option maxRecDepth 100000 in
/-- Settings without faults under which a source is written over: by its own output in a build that
succeeds, and by the output of another source in one that fails. -/
theorem compileDirectory_overwrites_source :
    (ownOutputSettings.faults = [] ∧
      discover ownOutputTree (Bytes.lit "/w") (Bytes.lit ".vc") = .ok [Bytes.lit "/w/Counter.vc"] ∧
      (compileDirectory ownOutputTree (Bytes.lit ".")
        (ownOutputSettings.options none) false).2.result.toOption.isSome ∧
      (compileDirectory ownOutputTree (Bytes.lit ".") (ownOutputSettings.options none) false).1.read
        (Bytes.lit "/w/Counter.vc") ≠ ownOutputTree.read (Bytes.lit "/w/Counter.vc")) ∧
    (secondSourceSettings.faults = [] ∧
      discover secondSourceTree (Bytes.lit "/w") (Bytes.lit ".js") =
        .ok [Bytes.lit "/w/Counter.js", Bytes.lit "/w/Counter.out.js"] ∧
      (compileDirectory secondSourceTree (Bytes.lit ".")
        (secondSourceSettings.options none) false).1.read
        (Bytes.lit "/w/Counter.out.js") ≠
          secondSourceTree.read (Bytes.lit "/w/Counter.out.js")) := by
  refine ⟨⟨by decide +kernel, by decide +kernel, by decide +kernel, by decide +kernel⟩,
    by decide +kernel, by decide +kernel, by decide +kernel⟩

end ComponentCompiler.Component
