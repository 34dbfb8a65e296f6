import ComponentCompiler.Component.Build
import ComponentCompiler.Proofs.Discovery
import ComponentCompiler.Proofs.Quoting

/-!
# Output paths

The output of a source lies below the output root, or below the root of the sources, where the
source lies below its own root; only the file name differs. So two sources have one output exactly
if they lie in one directory and give one component name.
-/

namespace ComponentCompiler.Component

open ComponentCompiler.Path (IsProper IsClean)

variable {t : FileTree} {rs : List Bytes} {root p q : Bytes} {opts : Options} {sources : List Bytes}

/-- The output path of a source that is named after its file. -/
def outputOf (root : Bytes) (opts : Options) (p : Bytes) : Bytes :=
  outputPath root p (upperFirst (stem p)) opts

theorem clean_outputPath (root p name : Bytes) (opts : Options) :
    Path.clean (outputPath root p name opts) = outputPath root p name opts := by
  unfold outputPath
  dsimp only
  split
  · have hdir : Path.dir p ≠ [] := Path.clean_ne_nil _
    rw [Path.join_pair hdir, Path.clean_clean]
  · rename_i hdir
    rw [Path.join_triple hdir, Path.clean_clean]

theorem clean_outputOf (root : Bytes) (opts : Options) (p : Bytes) :
    Path.clean (outputOf root opts p) = outputOf root opts p := clean_outputPath _ _ _ _

theorem isProper_outputName {name ext : Bytes} (hname : Script.isIdentifier name)
    (hext : Ascii.slash ∉ ext) : IsProper (name ++ ext) := by
  have hslash : Ascii.slash ∉ name ++ ext := by
    intro hmem
    rcases List.mem_append.mp hmem with hmem | hmem
    · exact Script.not_mem_of_isIdentifier (by decide) hname hmem
    · exact hext hmem
  cases name with
  | nil => cases Script.isName_of_isIdentifier hname
  | cons b name =>
      have hb : b ≠ Ascii.dot := by
        rintro rfl
        exact Script.not_mem_of_isIdentifier (by decide) hname List.mem_cons_self
      refine ⟨List.cons_ne_nil _ _, hslash, ?_, ?_⟩
      · intro heq
        exact hb (List.cons.inj heq).1
      · intro heq
        exact hb (List.cons.inj heq).1

/-! ## Where outputs lie -/

/-- Whether outputs have absolute paths. -/
def outAbsolute (opts : Options) : Bool := opts.outDir.isEmpty || Path.isAbsolute opts.outDir

/-- The components of the directory below which the outputs of the sources below `rs` lie. -/
def outBase (opts : Options) (rs : List Bytes) : List Bytes :=
  if opts.outDir = [] then rs else Path.cleanComponents opts.outDir

theorem isClean_outBase (hrs : IsClean true rs) (opts : Options) :
    IsClean (outAbsolute opts) (outBase opts rs) := by
  unfold outAbsolute outBase
  by_cases hdir : opts.outDir = []
  · rw [if_pos hdir, hdir]
    exact hrs
  · rw [if_neg hdir, List.isEmpty_eq_false_iff.mpr hdir, Bool.false_or]
    exact Path.isClean_cleanComponents _

/-- The way down through directories that are not skipped does not look like a way up. -/
theorem not_startsWith_dotDot {ds : List Bytes} (hds : ∀ d ∈ ds, IsProper d ∧ isSkipped d = false) :
    (Path.ofComponents false ds).startsWith Path.dotDot = false := by
  cases ds with
  | nil => decide
  | cons d ds =>
      obtain ⟨hproper, hskipped⟩ := hds d List.mem_cons_self
      cases d with
      | nil => exact absurd rfl hproper.ne_nil
      | cons b d =>
          have hb : b ≠ Ascii.dot := by
            rintro rfl
            simp [isSkipped, isHidden] at hskipped
          have hpath : ∃ rest, Path.ofComponents false ((b :: d) :: ds) = b :: rest :=
            ⟨_, List.intercalate_cons_cons_left⟩
          obtain ⟨rest, hrest⟩ := hpath
          rw [hrest]
          simp [Bytes.startsWith, Path.dotDot, List.isPrefixOf, Ne.symm hb]

/-- `p` names the file `base` on the way `ds` down from `rs`, which does not look like a way up. -/
structure LiesBelow (rs ds : List Bytes) (base p : Bytes) : Prop where
  path_eq : p = Path.ofComponents true (rs ++ ds ++ [base])
  clean : IsClean true (rs ++ ds ++ [base])
  down : (Path.ofComponents false ds).startsWith Path.dotDot = false

theorem SourceAt.liesBelow {ds : List Bytes} {base : Bytes} (hp : SourceAt t rs ds base p) :
    LiesBelow rs ds base p where
  path_eq := hp.path_eq
  clean := hp.clean
  down := not_startsWith_dotDot fun d hd => ⟨hp.clean.isProper d (by simp [hd]), hp.entered d hd⟩

theorem LiesBelow.dir_eq {ds : List Bytes} {base : Bytes} (hp : LiesBelow rs ds base p) :
    Path.dir p = Path.ofComponents true (rs ++ ds) := by
  rw [hp.path_eq]
  exact Path.dir_ofComponents (hp.clean.front (List.prefix_append _ _))
    (hp.clean.isProper base (by simp)).slash

theorem LiesBelow.isProper_outputWay {ds : List Bytes} {base file : Bytes}
    (hp : LiesBelow rs ds base p) (hfile : IsProper file) :
    ∀ d ∈ ds ++ [file], IsProper d := by
  intro d hd
  rcases List.mem_append.mp hd with hd | hd
  · exact hp.clean.isProper d (by simp [hd])
  · rwa [List.mem_singleton.mp hd]

theorem LiesBelow.outputPath_eq {ds : List Bytes} {name base : Bytes} (hp : LiesBelow rs ds base p)
    (hfile : IsProper (name ++ opts.withDefaults.outExtension)) :
    outputPath (Path.ofComponents true rs) p name opts =
      Path.ofComponents (outAbsolute opts)
        (outBase opts rs ++ (ds ++ [name ++ opts.withDefaults.outExtension])) := by
  have hdirs : IsClean true (rs ++ ds) := hp.clean.front (List.prefix_append _ _)
  have hrs : IsClean true rs := hdirs.front (List.prefix_append _ _)
  have hds : ∀ d ∈ ds, IsProper d := fun d hd => hdirs.isProper d (List.mem_append_right rs hd)
  have hdir := hp.dir_eq
  unfold outputPath outBase outAbsolute
  dsimp only
  rw [show opts.withDefaults.outDir = opts.outDir from rfl]
  by_cases hout : opts.outDir = []
  · simp only [hout, if_true, hdir]
    rw [Path.join_ofComponents hdirs hfile, List.append_assoc]
    rfl
  · have hcomponents : Path.components (Path.ofComponents false ds) = ds :=
      Path.components_ofComponents fun d hd => .inr (hds d hd)
    have hproper := hp.isProper_outputWay hfile
    simp only [hout, if_false, hdir, Path.relative?_append hrs hds, hp.down]
    rw [if_neg (by decide), Path.join_triple hout, Path.clean, Path.isAbsolute_append hout,
      Path.cleanComponents_append_cons hout, Path.components_append_cons, hcomponents,
      Path.components_of_isProper hfile, Path.cancel_of_isProper _ _ hproper, List.reverse_reverse,
      List.isEmpty_eq_false_iff.mpr hout, Bool.false_or]

/-! ## Sources with one output -/

/-- Outputs are no sources: their extension is the end of a file name, and it does not end with that
of the sources. -/
structure PlainExtensions (opts : Options) : Prop where
  slash : Ascii.slash ∉ opts.withDefaults.outExtension
  dot : ∃ rest, opts.withDefaults.extension = Ascii.dot :: rest
  differ : opts.withDefaults.outExtension.endsWith opts.withDefaults.extension = false

theorem PlainExtensions.not_endsWith (hopts : PlainExtensions opts) {name : Bytes}
    (hname : Script.isIdentifier name) :
    ¬(name ++ opts.withDefaults.outExtension).endsWith opts.withDefaults.extension := by
  intro hends
  have hdiffer : ¬opts.withDefaults.extension <:+ opts.withDefaults.outExtension := by
    intro hsuffix
    have hends' : opts.withDefaults.outExtension.endsWith opts.withDefaults.extension = true :=
      List.isSuffixOf_iff_suffix.mpr hsuffix
    rw [hopts.differ] at hends'
    cases hends'
  obtain ⟨front, hfront⟩ := List.isSuffixOf_iff_suffix.mp hends
  rcases List.suffix_or_suffix_of_suffix ⟨front, hfront⟩ (List.suffix_append name _)
    with h | ⟨mid, hmid⟩
  · exact hdiffer h
  · -- the dot of the source extension would be a byte of the name
    obtain ⟨rest, hdot⟩ := hopts.dot
    rw [← hmid, ← List.append_assoc] at hfront
    cases mid with
    | nil => exact hdiffer ⟨[], hmid.symm⟩
    | cons b mid =>
        have hb : b = Ascii.dot := (List.cons.inj (hmid.trans hdot)).1
        have hmem : Ascii.dot ∈ name := by
          rw [← List.append_cancel_right hfront, hb]
          simp
        exact Script.not_mem_of_isIdentifier (by decide) hname hmem

/-- No two sources of one directory give one component name. -/
def NamesApart (sources : List Bytes) : Prop :=
  ∀ p ∈ sources, ∀ q ∈ sources, Path.dir p = Path.dir q →
    upperFirst (stem p) = upperFirst (stem q) → p = q

/-- The way down to an output tells the directory and the component name of its source. -/
theorem append_outputName_inj_iff {ds es : List Bytes} {base base' : Bytes}
    (hp : SourceAt t rs ds base p) (hq : SourceAt t rs es base' q) (ext x y : Bytes) :
    ds ++ [x ++ ext] = es ++ [y ++ ext] ↔ Path.dir p = Path.dir q ∧ x = y := by
  rw [hp.liesBelow.dir_eq, hq.liesBelow.dir_eq]
  constructor
  · intro heq
    obtain ⟨hdirs, hlast⟩ := List.append_inj' heq rfl
    exact ⟨by rw [hdirs], List.append_cancel_right (List.singleton_inj.mp hlast)⟩
  · rintro ⟨hdirs, rfl⟩
    have hds := Path.ofComponents_inj (hp.clean.front (List.prefix_append _ _))
      (hq.clean.front (List.prefix_append _ _)) hdirs
    rw [List.append_cancel_left hds]

section

variable (ht : t.WellFormed) (hrs : IsClean true rs) {ext : Bytes}
  (h : discover t (Path.ofComponents true rs) ext = .ok sources)
  (hnames : ∀ p ∈ sources, Script.isIdentifier (upperFirst (stem p)))
  (hext : Ascii.slash ∉ opts.withDefaults.outExtension)

include ht hrs h

/-- A root that is no directory gives one source at most. -/
theorem eq_of_not_isDirectoryAt (hdir : ¬t.root.isDirectoryAt rs) :
    ∀ p ∈ sources, ∀ q ∈ sources, p = q := by
  rcases discover_of_not_isDirectoryAt ht hrs hdir h with rfl | ⟨rfl, _⟩
  · simp
  · intro p hp q hq
    rw [List.mem_singleton.mp hp, List.mem_singleton.mp hq]

/-- Something that tells the directories and the component names of sources apart, and nothing else,
differs on all sources exactly if the names are apart. -/
theorem nodup_map_iff_namesApart {α : Type} (f : Bytes → α)
    (hf : ∀ {ds es base base' p q}, p ∈ sources → q ∈ sources → SourceAt t rs ds base p →
      SourceAt t rs es base' q →
        (f p = f q ↔ Path.dir p = Path.dir q ∧ upperFirst (stem p) = upperFirst (stem q))) :
    (sources.map f).Nodup ↔ NamesApart sources := by
  by_cases hdir : t.root.isDirectoryAt rs = true
  · obtain ⟨hnodup, hsources⟩ := discover_of_isDirectoryAt ht hrs hdir h
    rw [List.nodup_map_iff_inj_on hnodup]
    constructor
    · intro hinj p hp q hq hdirs hname
      obtain ⟨_, _, hp', _⟩ := hsources p hp
      obtain ⟨_, _, hq', _⟩ := hsources q hq
      exact hinj p hp q hq ((hf hp hq hp' hq').mpr ⟨hdirs, hname⟩)
    · intro hapart p hp q hq heq
      obtain ⟨_, _, hp', _⟩ := hsources p hp
      obtain ⟨_, _, hq', _⟩ := hsources q hq
      obtain ⟨hdirs, hname⟩ := (hf hp hq hp' hq').mp heq
      exact hapart p hp q hq hdirs hname
  · have hsingle := eq_of_not_isDirectoryAt ht hrs h hdir
    rw [List.nodup_map_iff_inj_on (nodup_of_discover ht hrs h)]
    exact iff_of_true (fun p hp q hq _ => hsingle p hp q hq) fun p hp q hq _ _ => hsingle p hp q hq

include hnames hext

theorem nodup_outputs_iff :
    (sources.map (outputOf (Path.ofComponents true rs) opts)).Nodup ↔ NamesApart sources := by
  apply nodup_map_iff_namesApart ht hrs h
  intro ds es base base' p q hp hq hp' hq'
  have hfile := isProper_outputName (hnames p hp) hext
  have hfile' := isProper_outputName (hnames q hq) hext
  rw [outputOf, outputOf, hp'.liesBelow.outputPath_eq hfile, hq'.liesBelow.outputPath_eq hfile',
    ← append_outputName_inj_iff hp' hq' opts.withDefaults.outExtension]
  constructor
  · intro heq
    have hbase := isClean_outBase hrs opts
    exact List.append_cancel_left
      (Path.ofComponents_inj (hbase.append (hp'.liesBelow.isProper_outputWay hfile))
      (hbase.append (hq'.liesBelow.isProper_outputWay hfile')) heq)
  · intro heq
    rw [heq]

/-- The places of the outputs differ if their paths do: outputs are told apart by their last
components. -/
theorem nodup_places_iff :
    (sources.map fun p => t.locate (outputOf (Path.ofComponents true rs) opts p)).Nodup ↔
      NamesApart sources := by
  apply nodup_map_iff_namesApart ht hrs h
  intro ds es base base' p q hp hq hp' hq'
  have hfile := isProper_outputName (hnames p hp) hext
  have hfile' := isProper_outputName (hnames q hq) hext
  have hbase := isClean_outBase hrs opts
  rw [outputOf, outputOf, hp'.liesBelow.outputPath_eq hfile, hq'.liesBelow.outputPath_eq hfile',
    ht.rooted.locate_append hbase (hp'.liesBelow.isProper_outputWay hfile),
    ht.rooted.locate_append hbase (hq'.liesBelow.isProper_outputWay hfile'),
    List.append_cancel_left_eq, append_outputName_inj_iff hp' hq']

omit hext in
/-- No output lies where another source does. -/
theorem eq_of_place_eq (hopts : PlainExtensions opts)
    (hsource : ext = opts.withDefaults.extension) :
    ∀ p ∈ sources, ∀ q ∈ sources,
      t.locate (outputOf (Path.ofComponents true rs) opts p) = t.locate q → p = q := by
  intro p hp q hq hplace
  by_cases hdir : t.root.isDirectoryAt rs = true
  · obtain ⟨_, hsources⟩ := discover_of_isDirectoryAt ht hrs hdir h
    obtain ⟨ds, _, hp', _⟩ := hsources p hp
    obtain ⟨es, base, hq', hends⟩ := hsources q hq
    have hfile := isProper_outputName (hnames p hp) hopts.slash
    rw [outputOf, hp'.liesBelow.outputPath_eq hfile,
      ht.rooted.locate_append (isClean_outBase hrs opts) (hp'.liesBelow.isProper_outputWay hfile),
      hq'.path_eq, ht.rooted.locate_of_isClean hq'.clean, ← List.append_assoc] at hplace
    have hlast := List.singleton_inj.mp (List.append_inj' hplace rfl).2
    rw [← hlast, hsource] at hends
    exact absurd hends (hopts.not_endsWith (hnames p hp))
  · exact eq_of_not_isDirectoryAt ht hrs h hdir p hp q hq

end

end ComponentCompiler.Component
