import ComponentCompiler.Proofs.Interleaving
import ComponentCompiler.Settings.Basic
import Mathlib

/-!
# Outputs and sources

Settings ask that outputs and sources have different extensions. That keeps a run of a build from
writing over a source if the output extension has no slash and does not end with the extension of
the sources; with a slash the output may even be the source itself. Without one, only a source that
gives no component name is ever written over, so a run that builds every source spares them all.
-/

namespace ComponentCompiler.Component

open ComponentCompiler.Path (IsProper IsClean)

/-! ## Dots in names -/

theorem dot_not_mem_of_isIdentifier {name : Bytes} (h : Script.isIdentifier name) :
    Ascii.dot ∉ name :=
  Script.not_mem_of_isIdentifier (by decide) h

theorem dot_mem_upperFirst {s : Bytes} (h : Ascii.dot ∈ s) : Ascii.dot ∈ upperFirst s := by
  cases s with
  | nil => cases h
  | cons c s =>
      rw [upperFirst]
      rcases List.mem_cons.mp h with rfl | h
      · exact List.mem_cons_self
      · split <;> simp [h]

theorem stem_ofComponents {front rest : Bytes} (hname : IsProper (front ++ Ascii.dot :: rest))
    (hdot : Ascii.dot ∉ rest) (ps : List Bytes) :
    stem (Path.ofComponents true (ps ++ [front ++ Ascii.dot :: rest])) = front := by
  unfold stem
  dsimp only
  rw [Path.base_ofComponents hname, Path.dropEnding_extension_append hname.slash hdot]

/-- A file that gives a component name has one dot: its extension is all that follows the stem. -/
theorem eq_stem_append {ps : List Bytes} {base rest : Bytes} (hbase : IsProper base)
    (hends : base.endsWith (Ascii.dot :: rest))
    (hident : Script.isIdentifier (upperFirst (stem (Path.ofComponents true (ps ++ [base]))))) :
    Ascii.dot ∉ rest ∧ base = stem (Path.ofComponents true (ps ++ [base])) ++ Ascii.dot ::
      rest := by
  obtain ⟨front, rfl⟩ := List.isSuffixOf_iff_suffix.mp hends
  by_cases hdot : Ascii.dot ∈ rest
  · -- only what follows the last dot is cut off, so a dot is left in the name
    obtain ⟨mid, tail, rfl, htail⟩ := Bytes.exists_last_split hdot
    have hname : front ++ Ascii.dot :: (mid ++ Ascii.dot :: tail) =
        (front ++ Ascii.dot :: mid) ++ Ascii.dot :: tail := by simp
    rw [hname] at hbase hident
    rw [stem_ofComponents hbase htail] at hident
    exact absurd (dot_mem_upperFirst (by simp)) (dot_not_mem_of_isIdentifier hident)
  · rw [stem_ofComponents hbase hdot]
    exact ⟨hdot, rfl⟩

/-! ## Where an output lies -/

/-- An output extension that gives a file name: what follows its last slash, if it has one, is a
proper component. -/
def HasFileName (outExtension : Bytes) : Prop :=
  Ascii.slash ∈ outExtension → IsProper (Path.afterLastSlash outExtension)

theorem exists_components {name ext : Bytes} (hname : Script.isIdentifier name)
    (hext : HasFileName ext) :
    ∃ cs last, Path.components (name ++ ext) = cs ++ [last] ∧ IsProper last ∧
      (Ascii.slash ∉ ext ∧ last = name ++ ext ∨ Ascii.slash ∈ ext ∧ last <:+ ext) := by
  by_cases hslash : Ascii.slash ∈ ext
  · have hproper := hext hslash
    obtain ⟨front, last, rfl, hlast⟩ := Bytes.exists_last_split hslash
    rw [Path.afterLastSlash_append hlast] at hproper
    refine ⟨Path.components (name ++ front), last, ?_, hproper, .inr ⟨hslash, ?_⟩⟩
    · rw [← List.append_assoc, Path.components_append_cons, Path.components_of_isProper hproper]
    · exact (List.suffix_cons _ _).trans (List.suffix_append _ _)
  · have hproper := isProper_outputName hname hslash
    exact ⟨[], name ++ ext, Path.components_of_isProper hproper, hproper, .inl ⟨hslash, rfl⟩⟩

theorem exists_outputPath_eq (root p name : Bytes) (opts : Options) :
    ∃ dir, dir ≠ [] ∧ outputPath root p name opts =
      Path.clean (dir ++ Ascii.slash :: (name ++ opts.withDefaults.outExtension)) := by
  unfold outputPath
  dsimp only
  split
  · have hdir : Path.dir p ≠ [] := Path.clean_ne_nil _
    exact ⟨Path.dir p, hdir, Path.join_pair hdir _⟩
  · rename_i hdir
    rw [Path.join_triple hdir]
    exact ⟨opts.withDefaults.outDir ++ Ascii.slash :: _, by simp, by
      rw [List.append_assoc, List.cons_append]⟩

theorem exists_locate_outputPath {t : FileTree} (ht : t.Rooted) (root p : Bytes) {name last : Bytes}
    {opts : Options} {cs : List Bytes}
    (h : Path.components (name ++ opts.withDefaults.outExtension) = cs ++ [last])
    (hlast : IsProper last) :
    ∃ ds, t.locate (outputPath root p name opts) = ds ++ [last] := by
  obtain ⟨dir, hdir, hpath⟩ := exists_outputPath_eq root p name opts
  have hclean :=
    Path.isClean_cleanComponents (dir ++ Ascii.slash :: (name ++ opts.withDefaults.outExtension))
  rw [hpath, Path.clean]
  generalize Path.isAbsolute (dir ++ Ascii.slash :: (name ++ opts.withDefaults.outExtension)) =
    absolute
    at hclean ⊢
  have hproper : ∀ c ∈ [last], IsProper c := by simpa using hlast
  rw [Path.cleanComponents_append_cons hdir, h, Path.cancel_append,
    Path.cancel_of_isProper _ _ hproper, List.reverse_reverse] at hclean ⊢
  exact ⟨_, ht.locate_append (hclean.front (List.prefix_append _ _)) hproper⟩

/-! ## Settings without faults -/

/-- The extensions as settings without faults have them: each starts with a dot, and they differ. -/
structure CheckedExtensions (opts : Options) : Prop where
  extension : ∃ rest, opts.withDefaults.extension = Ascii.dot :: rest
  outExtension : ∃ rest, opts.withDefaults.outExtension = Ascii.dot :: rest
  differ : opts.withDefaults.extension ≠ opts.withDefaults.outExtension

theorem exists_of_isExtension {s : Bytes} (h : Settings.isExtension s) :
    ∃ rest, s = Ascii.dot :: rest := by
  obtain ⟨hhead, _⟩ := Bool.and_eq_true_iff.mp h
  cases s with
  | nil => cases hhead
  | cons b rest =>
      obtain rfl : b = Ascii.dot := by simpa using hhead
      exact ⟨rest, rfl⟩

section

variable {s : Settings} (hs : s.faults = []) (logger : Option Logger)

include hs

theorem isExtension_of_faults :
    Settings.isExtension s.extension ∧ Settings.isExtension s.outExtension ∧
      s.extension ≠ s.outExtension := by
  simp only [Settings.faults, List.append_eq_nil_iff] at hs
  obtain ⟨⟨⟨⟨⟨⟨⟨⟨_, hext⟩, hout⟩, hdiffer⟩, _⟩, _⟩, _⟩, _⟩, _⟩ := hs
  refine ⟨?_, ?_, ?_⟩
  · by_contra h
    simp [h] at hext
  · by_contra h
    simp [h] at hout
  · intro h
    simp [h] at hdiffer

theorem withDefaults_extension : (s.options logger).withDefaults.extension = s.extension := by
  obtain ⟨rest, hrest⟩ := exists_of_isExtension (isExtension_of_faults hs).1
  exact if_neg (by simp [Settings.options, hrest])

theorem withDefaults_outExtension :
    (s.options logger).withDefaults.outExtension = s.outExtension := by
  obtain ⟨rest, hrest⟩ := exists_of_isExtension (isExtension_of_faults hs).2.1
  exact if_neg (by simp [Settings.options, hrest])

theorem checkedExtensions_of_faults : CheckedExtensions (s.options logger) := by
  obtain ⟨hext, hout, hdiffer⟩ := isExtension_of_faults hs
  refine ⟨?_, ?_, ?_⟩
  · rw [withDefaults_extension hs]
    exact exists_of_isExtension hext
  · rw [withDefaults_outExtension hs]
    exact exists_of_isExtension hout
  · rwa [withDefaults_extension hs, withDefaults_outExtension hs]

end

/-! ## Runs -/

/-- A run of a build: what is built, and the order in which the jobs act. -/
structure Run (options : Options) where
  tree : FileTree
  root : Bytes
  sources : List Bytes
  schedule : List Bytes
  wellFormed : tree.WellFormed
  discovered :
    discover tree (Path.absolute tree.cwd root) options.withDefaults.extension = .ok sources
  scheduled : ∀ p ∈ schedule, p ∈ sources

namespace Run

variable {options : Options} {r : Run options} {p q : Bytes}

/-- The directory that is searched. -/
def dir (r : Run options) : Bytes := Path.absolute r.tree.cwd r.root

/-- The jobs at the end of the schedule. -/
def batch (r : Run options) : Batch := interleave r.tree r.root options r.schedule

/-- The output of the source `p` has been written. -/
def Wrote (r : Run options) (p : Bytes) : Prop := (r.batch.stage p).output?.isSome

/-- No output has been written where a source was found. -/
def Spares (r : Run options) : Prop :=
  ∀ p ∈ r.sources, r.Wrote p → ∀ q ∈ r.sources, place r.tree r.dir options p ≠ r.tree.locate q

theorem frame (r : Run options) : Batch.Frame r.tree r.dir options r.sources r.batch :=
  Batch.frame_run r.wellFormed.rooted r.scheduled

theorem Wrote.isIdentifier (h : r.Wrote p) : Script.isIdentifier (upperFirst (stem p)) := by
  unfold Wrote at h
  cases hstage : r.batch.stage p with
  | written g => exact (r.frame.generated p g (by rw [hstage]; rfl)).1
  | waiting | compiled g | placed g | failed fault => simp [hstage, Stage.output?] at h

theorem exists_source (hq : q ∈ r.sources) :
    ∃ qs base, q = Path.ofComponents true (qs ++ [base]) ∧ r.tree.locate q = qs ++ [base] ∧
      IsProper base ∧
      base.endsWith options.withDefaults.extension ∧ IsSourceFile r.tree q := by
  obtain ⟨habsolute, hclean⟩ := r.wellFormed.rooted.absolute_eq r.root
  have hsources := r.discovered
  rw [habsolute] at hsources
  obtain ⟨qs, base, rfl, hbase, hfile, hends⟩ :=
    Component.exists_source r.wellFormed hclean hsources hq
  have hlocate := r.wellFormed.rooted.locate_of_isClean hbase
  exact ⟨qs, base, rfl, hlocate, hbase.isProper base (by simp), hends,
    Path.clean_ofComponents hbase,
    by rwa [hlocate]⟩

/-- The sources of a run that spares them can be read as before. -/
theorem Spares.read_eq (h : r.Spares) (hq : q ∈ r.sources) :
    r.batch.tree.read q = r.tree.read q := by
  obtain ⟨_, _, _, _, _, _, hfile⟩ := exists_source hq
  exact r.frame.read_eq r.wellFormed.rooted hfile fun p hp hwrote => h p hp hwrote q hq

/-- If an output lies where a source was found, the name of that source ends with the output
extension or is an ending of it. -/
theorem exists_base_of_place_eq (hext : HasFileName options.withDefaults.outExtension)
    (hwrote : r.Wrote p) (hq : q ∈ r.sources)
    (hplace : place r.tree r.dir options p = r.tree.locate q) :
    ∃ qs base, q = Path.ofComponents true (qs ++ [base]) ∧ IsProper base ∧
      base.endsWith options.withDefaults.extension ∧
      (Ascii.slash ∉ options.withDefaults.outExtension ∧
          base = upperFirst (stem p) ++ options.withDefaults.outExtension ∨
        Ascii.slash ∈ options.withDefaults.outExtension ∧
          base <:+ options.withDefaults.outExtension) := by
  obtain ⟨qs, base, hpath, hlocate, hbase, hends, _⟩ := exists_source hq
  obtain ⟨cs, last, hcomponents, hlast, hform⟩ := exists_components hwrote.isIdentifier hext
  obtain ⟨ds, hds⟩ := exists_locate_outputPath r.wellFormed.rooted r.dir p hcomponents hlast
  have hsame : ds ++ [last] = qs ++ [base] := hds.symm.trans (hplace.trans hlocate)
  obtain rfl : last = base := List.singleton_inj.mp (List.append_inj' hsame rfl).2
  exact ⟨qs, last, hpath, hbase, hends, hform⟩

/-- Outputs whose extension does not end with that of the sources spare them. -/
theorem spares_of_not_endsWith (hopts : CheckedExtensions options)
    (hext : HasFileName options.withDefaults.outExtension)
    (hends : options.withDefaults.outExtension.endsWith options.withDefaults.extension = false)
    (r : Run options) : r.Spares := by
  intro p _ hwrote q hq hplace
  obtain ⟨qs, base, _, _, hbase, ⟨hslash, rfl⟩ | ⟨_, hlast⟩⟩ :=
    exists_base_of_place_eq hext hwrote hq hplace
  · exact PlainExtensions.not_endsWith ⟨hslash, hopts.extension, hends⟩ hwrote.isIdentifier hbase
  · have hsuffix := (List.isSuffixOf_iff_suffix.mp hbase).trans hlast
    have hends' :
        options.withDefaults.outExtension.endsWith options.withDefaults.extension = true :=
      List.isSuffixOf_iff_suffix.mpr hsuffix
    rw [hends] at hends'
    cases hends'

/-- A source whose extension has two dots gives no component name, so nothing is built. -/
theorem not_wrote_of_dot_mem {rest : Bytes}
    (hext : options.withDefaults.extension = Ascii.dot :: rest) (hdot : Ascii.dot ∈ rest)
    (hp : p ∈ r.sources) :
    ¬r.Wrote p := by
  intro hwrote
  obtain ⟨ps, base, rfl, _, hbase, hends, _⟩ := exists_source hp
  rw [hext] at hends
  exact (eq_stem_append hbase hends hwrote.isIdentifier).1 hdot

/-- Without a slash in the output extension, a source that is written over gives no
component name. -/
theorem not_isIdentifier_of_place_eq (hopts : CheckedExtensions options)
    (hslash : Ascii.slash ∉ options.withDefaults.outExtension) (hwrote : r.Wrote p)
    (hq : q ∈ r.sources) (hplace : place r.tree r.dir options p = r.tree.locate q) :
    ¬Script.isIdentifier (upperFirst (stem q)) := by
  intro hident
  have hext : HasFileName options.withDefaults.outExtension := fun hmem => absurd hmem hslash
  obtain ⟨rest, hrest⟩ := hopts.extension
  obtain ⟨rest', hrest'⟩ := hopts.outExtension
  obtain ⟨qs, base, rfl, hbase, hends, ⟨_, hname⟩ | ⟨hmem, _⟩⟩ :=
    exists_base_of_place_eq hext hwrote hq hplace
  · rw [hrest] at hends
    obtain ⟨hdot, hstem⟩ := eq_stem_append hbase hends hident
    rw [hrest'] at hname
    have hdot' : Ascii.dot ∉ stem (Path.ofComponents true (qs ++ [base])) := fun hmem =>
      dot_not_mem_of_isIdentifier hident (dot_mem_upperFirst hmem)
    -- the name has one dot, so both extensions begin there
    obtain ⟨_, _, hsame⟩ := (List.append_cons_inj_of_notMem hdot' hdot).mp (hstem.symm.trans hname)
    exact hopts.differ (by rw [hrest, hrest', hsame])
  · exact hslash hmem

/-- Without a slash in the output extension, a run that builds every source spares them all. -/
theorem spares_of_isFinished (hopts : CheckedExtensions options)
    (hslash : Ascii.slash ∉ options.withDefaults.outExtension) (h : r.batch.IsFinished r.sources) :
    r.Spares :=
  fun _ _ hwrote q hq hplace => not_isIdentifier_of_place_eq hopts hslash hwrote hq hplace
    (Wrote.isIdentifier (h q hq))

/-- Building the sources of a directory is a run, whether it succeeds or fails or is canceled. -/
theorem exists_run_compileDirectory {t : FileTree} {root : Bytes} {sources : List Bytes}
    (ht : t.WellFormed)
    (hsources : discover t (Path.absolute t.cwd root) options.withDefaults.extension = .ok sources)
    (canceled : Bool) :
    ∃ r : Run options, r.tree = t ∧ r.sources = sources ∧
      (compileDirectory t root options canceled).1 = r.batch.tree ∧
      ∀ outputs, (compileDirectory t root options canceled).2.result = .ok outputs →
        r.batch.IsFinished r.sources := by
  obtain ⟨habsolute, hclean⟩ := ht.rooted.absolute_eq root
  have hnodup : sources.Nodup := nodup_of_discover ht hclean (habsolute ▸ hsources)
  have hwaiting : ∀ p ∈ sources, (Batch.start t).stage p = .waiting := fun _ _ => rfl
  obtain ⟨schedule, hschedule, htree, hfinished⟩ :=
    @Batch.exists_schedule_compileInOrder (Path.absolute t.cwd root) options.withDefaults sources
      (Batch.start t) hnodup hwaiting
  rw [Batch.run_withDefaults] at htree hfinished
  unfold compileDirectory
  dsimp only
  rw [hsources]
  dsimp only
  split
  · exact ⟨⟨t, root, sources, [], ht, hsources, by simp⟩, rfl, rfl, rfl, fun _ hok => by cases hok⟩
  · refine ⟨⟨t, root, sources, schedule, ht, hsources, hschedule⟩, rfl, rfl, htree, ?_⟩
    intro outputs hok
    dsimp only [Batch.start] at hfinished hok
    cases hresult :
      (compileInOrder (Path.absolute t.cwd root) options.withDefaults t sources).2.result with
    | error fault => simp [hresult, Except.map] at hok
    | ok others => exact hfinished others hresult

end Run

end ComponentCompiler.Component
