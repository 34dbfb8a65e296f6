import ComponentCompiler.Proofs.OutputPath

/-!
# Building sources at the same time

The sources of a directory are built by independent jobs on one file tree. A job reads and compiles
its source, makes the directory of its output and writes the output, and between these three actions
the other jobs may act. A schedule lists whose turn it is; how many workers there are only limits
which schedules occur, and building the sources one after another is one of them.
-/

namespace ComponentCompiler.Component

/-! ## Jobs -/

/-- How far the job of a source has come. -/
inductive Stage where
  | waiting
  | compiled (g : Generated)
  | placed (g : Generated)
  | written (g : Generated)
  | failed (fault : BuildFault)

namespace Stage

/-- The next action of the job of the source `path`, and how far it has come then. -/
def next (root : Bytes) (options : Options) (path : Bytes) (t : FileTree) : Stage → FileTree × Stage
  | waiting =>
    match (generate t root path [] options.withDefaults).result with
    | .ok g => (t, compiled g)
    | .error fault => (t, failed fault)
  | compiled g =>
    match t.makeDirectories (Path.dir g.output) with
    | .ok t => (t, placed g)
    | .error fault => (t, failed (.outputDirectory fault))
  | placed g =>
    match t.write g.output g.code with
    | .ok t => (t, written g)
    | .error fault => (t, failed (.outputFile g.output fault))
  | stage => (t, stage)

/-- What a job has generated. -/
def generated? : Stage → Option Generated
  | compiled g | placed g | written g => some g
  | waiting | failed _ => none

/-- Whether the directory of the output has been made. -/
def isPlaced : Stage → Bool
  | placed _ | written _ => true
  | _ => false

/-- The output path of a job that is done. -/
def output? : Stage → Option Bytes
  | written g => some g.output
  | _ => none

/-- Whether a job has failed. -/
def isFailed : Stage → Bool
  | failed _ => true
  | _ => false

/-- How many actions a job that has not failed has taken. -/
def turns : Stage → Nat
  | waiting => 0
  | compiled _ => 1
  | placed _ => 2
  | written _ | failed _ => 3

/-- The actions of a job, as the changes of the tree and of the stage that they make. -/
inductive Acts (root : Bytes) (options : Options) (path : Bytes) (t : FileTree) :
    Stage → FileTree → Stage → Prop
  | compile {g : Generated} (h : (generate t root path [] options.withDefaults).result = .ok g) :
      Acts root options path t waiting t (compiled g)
  | makeDirectory {g : Generated} {t' : FileTree}
    (h : t.makeDirectories (Path.dir g.output) = .ok t') :
      Acts root options path t (compiled g) t' (placed g)
  | write {g : Generated} {t' : FileTree} (h : t.write g.output g.code = .ok t') :
      Acts root options path t (placed g) t' (written g)
  | fail {stage : Stage} {fault : BuildFault} (h : stage.output? = none) :
      Acts root options path t stage t (failed fault)
  | rest (stage : Stage) : Acts root options path t stage t stage

theorem acts_next (root : Bytes) (options : Options) (path : Bytes) (t : FileTree) (stage : Stage) :
    Acts root options path t stage (stage.next root options path t).1
      (stage.next root options path t).2 := by
  cases stage with
  | waiting =>
      rw [next]
      split
      · rename_i h
        exact .compile h
      · exact .fail rfl
  | compiled g =>
      rw [next]
      split
      · rename_i h
        exact .makeDirectory h
      · exact .fail rfl
  | placed g =>
      rw [next]
      split
      · rename_i h
        exact .write h
      · exact .fail rfl
  | written g => exact .rest _
  | failed fault => exact .rest _

theorem turns_le (stage : Stage) : stage.turns ≤ 3 := by
  cases stage <;> simp [turns]

theorem turns_next {root : Bytes} {options : Options} {path : Bytes} {t : FileTree} {stage : Stage}
    (h : (stage.next root options path t).2.isFailed = false) :
    (stage.next root options path t).2.turns = min 3 (stage.turns + 1) := by
  cases stage with
  | waiting =>
      rw [next] at h ⊢
      cases hresult : (generate t root path [] options.withDefaults).result with
      | ok g => rfl
      | error fault => simp [hresult, isFailed] at h
  | compiled g =>
      rw [next] at h ⊢
      cases hresult : t.makeDirectories (Path.dir g.output) with
      | ok t' => rfl
      | error fault => simp [hresult, isFailed] at h
  | placed g =>
      rw [next] at h ⊢
      cases hresult : t.write g.output g.code with
      | ok t' => rfl
      | error fault => simp [hresult, isFailed] at h
  | written g => rfl
  | failed fault => cases h

end Stage

/-- A tree on which jobs act, each named by its source. -/
structure Batch where
  tree : FileTree
  stage : Bytes → Stage

namespace Batch

/-- All jobs before their first action. -/
def start (t : FileTree) : Batch := ⟨t, fun _ => .waiting⟩

/-- The batch after an action of the job of the source `path`. -/
def set (b : Batch) (path : Bytes) (t : FileTree) (stage : Stage) : Batch :=
  ⟨t, fun p => if p = path then stage else b.stage p⟩

theorem set_stage_self (b : Batch) (path : Bytes) (t : FileTree) (stage : Stage) :
    (b.set path t stage).stage path = stage := if_pos rfl

theorem set_stage_of_ne (b : Batch) {path p : Bytes} (h : p ≠ path) (t : FileTree) (stage : Stage) :
    (b.set path t stage).stage p = b.stage p := if_neg h

/-- The next action of the job of the source `path`. -/
def step (root : Bytes) (options : Options) (b : Batch) (path : Bytes) : Batch :=
  let next := (b.stage path).next root options path b.tree
  b.set path next.1 next.2

/-- The actions of a schedule, one after another. -/
def run (root : Bytes) (options : Options) (b : Batch) (schedule : List Bytes) : Batch :=
  schedule.foldl (step root options) b

/-- The output paths of the sources that are done. -/
def outputs (b : Batch) (sources : List Bytes) : List Bytes :=
  sources.filterMap fun p => (b.stage p).output?

/-- All sources are done. -/
def IsFinished (b : Batch) (sources : List Bytes) : Prop :=
  ∀ p ∈ sources, (b.stage p).output?.isSome

end Batch

/-! ## What a job compiles -/

theorem withDefaults_withDefaults (options : Options) :
    options.withDefaults.withDefaults = options.withDefaults := by
  have horDefault : ∀ value default : Bytes, default ≠ [] →
      orDefault (orDefault value default) default = orDefault value default := by
    intro value default hdefault
    unfold orDefault
    by_cases hvalue : value = [] <;> simp [hvalue, hdefault]
  unfold Options.withDefaults
  simp only [horDefault _ _ (show defaultRuntime ≠ [] by decide),
    horDefault _ _ (show defaultContainer ≠ [] by decide),
    horDefault _ _ (show defaultExtension ≠ [] by decide),
    horDefault _ _ (show defaultOutExtension ≠ [] by decide), Options.activeHooks, Option.getD_some]

theorem outputPath_withDefaults (root p name : Bytes) (options : Options) :
    outputPath root p name options.withDefaults = outputPath root p name options := by
  unfold outputPath
  rw [withDefaults_withDefaults]

theorem outputOf_withDefaults (root : Bytes) (options : Options) (p : Bytes) :
    outputOf root options.withDefaults p = outputOf root options p :=
  outputPath_withDefaults root p _ options

/-- What is generated depends on the tree only through the source. -/
theorem generate_congr {t t' : FileTree} {p : Bytes} (h : t.read p = t'.read p) (root name : Bytes)
    (opts : Options) : generate t root p name opts = generate t' root p name opts := by
  unfold generate
  rw [h]

theorem nameFor_eq_ok {p name : Bytes} (h : nameFor p [] = .ok name) :
    Script.isIdentifier (upperFirst (stem p)) ∧ name = upperFirst (stem p) := by
  rw [nameFor, if_pos rfl, mapError_eq_ok, componentName] at h
  split at h
  · rename_i hname
    injection h with h
    exact ⟨hname, h.symm⟩
  · cases h

theorem generate_eq_ok {t : FileTree} {root p : Bytes} {opts : Options} {g : Generated}
    (h : (generate t root p [] opts).result = .ok g) :
    Script.isIdentifier (upperFirst (stem p)) ∧ g.output = outputOf root opts p ∧
      ∃ src, t.read p = .ok src ∧
        (compileSource { bytes := src } (upperFirst (stem p)) opts).result = .ok g.code := by
  obtain ⟨name, hname, h⟩ := Report.bind_eq_ok.mp h
  obtain ⟨src, hsrc, h⟩ := Report.bind_eq_ok.mp h
  obtain ⟨code, hcode, h⟩ := Report.bind_eq_ok.mp h
  obtain ⟨hident, rfl⟩ := nameFor_eq_ok hname
  injection h with h
  subst h
  exact ⟨hident, rfl, src, mapError_eq_ok.mp hsrc, mapError_eq_ok.mp hcode⟩

/-! ## What a batch changes -/

/-- Where the output of a source is written. -/
def place (t : FileTree) (root : Bytes) (options : Options) (p : Bytes) : List Bytes :=
  t.locate (outputOf root options p)

/-- The directory in which the output of a source is written. -/
def placeDirectory (t : FileTree) (root : Bytes) (options : Options) (p : Bytes) : List Bytes :=
  t.locate (Path.dir (outputOf root options p))

namespace Batch

/-- A batch that began with the tree `t` has made directories of outputs and has written outputs,
and nothing else has changed. -/
structure Frame (t : FileTree) (root : Bytes) (options : Options) (sources : List Bytes)
    (b : Batch) :
    Prop where
  workingDirectory : b.tree.workingDirectory = t.workingDirectory
  kept : ∀ cs, t.root.isDirectoryAt cs → b.tree.root.isDirectoryAt cs
  made : ∀ cs, b.tree.root.isDirectoryAt cs →
    t.root.isDirectoryAt cs ∨ ∃ p ∈ sources, cs <+: placeDirectory t root options p
  files : ∀ cs, (∀ p ∈ sources, (b.stage p).output?.isSome → place t root options p ≠ cs) →
    b.tree.root.fileAt? cs = t.root.fileAt? cs
  generated : ∀ p g, (b.stage p).generated? = some g →
    Script.isIdentifier (upperFirst (stem p)) ∧ g.output = outputOf root options p
  placed : ∀ p, (b.stage p).isPlaced → b.tree.root.isDirectoryAt (placeDirectory t root options p)

variable {t t' : FileTree} {root : Bytes} {options : Options} {sources schedule : List Bytes}
  {b : Batch}
  {p : Bytes} {stage : Stage}

theorem frame_start (t : FileTree) (root : Bytes) (options : Options) (sources : List Bytes) :
    Frame t root options sources (start t) where
  workingDirectory := rfl
  kept := fun _ h => h
  made := fun _ h => .inl h
  files := fun _ _ => rfl
  generated := fun _ _ h => by cases h
  placed := fun _ h => by cases h

theorem Frame.rooted (hb : Frame t root options sources b) (ht : t.Rooted) : b.tree.Rooted where
  proper := by
    rw [hb.workingDirectory]
    exact ht.proper
  isDirectory := by
    rw [hb.workingDirectory]
    exact hb.kept _ ht.isDirectory

theorem Frame.locate_eq (hb : Frame t root options sources b) (p : Bytes) :
    b.tree.locate p = t.locate p := by
  unfold FileTree.locate FileTree.cwd
  rw [hb.workingDirectory]

/-- What an action of the job of `p` may change. -/
theorem Frame.set (hb : Frame t root options sources b) (hp : p ∈ sources)
    (hcwd : t'.workingDirectory = b.tree.workingDirectory)
    (hdirs : ∀ cs, t'.root.isDirectoryAt cs ↔ b.tree.root.isDirectoryAt cs ∨
      (stage.isPlaced ∧ cs <+: placeDirectory t root options p))
    (hfiles : ∀ cs, (stage.output?.isSome → place t root options p ≠ cs) →
      t'.root.fileAt? cs = b.tree.root.fileAt? cs)
    (hdone : (b.stage p).output?.isSome → stage.output?.isSome)
    (hgenerated : ∀ g, stage.generated? = some g →
      Script.isIdentifier (upperFirst (stem p)) ∧ g.output = outputOf root options p) :
    Frame t root options sources (b.set p t' stage) where
  workingDirectory := hcwd.trans hb.workingDirectory
  kept := fun cs h => (hdirs cs).mpr (.inl (hb.kept cs h))
  made := by
    intro cs h
    rcases (hdirs cs).mp h with h | ⟨_, h⟩
    · exact hb.made cs h
    · exact .inr ⟨p, hp, h⟩
  files := by
    intro cs h
    have hself := h p hp
    rw [set_stage_self] at hself
    refine (hfiles cs hself).trans (hb.files cs ?_)
    intro q hq hout
    by_cases hne : q = p
    · subst hne
      exact hself (hdone hout)
    · apply h q hq
      rwa [set_stage_of_ne b hne]
  generated := by
    intro q g hg
    by_cases hne : q = p
    · subst hne
      rw [set_stage_self] at hg
      exact hgenerated g hg
    · rw [set_stage_of_ne b hne] at hg
      exact hb.generated q g hg
  placed := by
    intro q hq
    apply (hdirs _).mpr
    by_cases hne : q = p
    · subst hne
      rw [set_stage_self] at hq
      exact .inr ⟨hq, List.prefix_refl _⟩
    · rw [set_stage_of_ne b hne] at hq
      exact .inl (hb.placed q hq)

theorem Frame.makesDirectory (hb : Frame t root options sources b) (ht : t.Rooted) {g : Generated}
    (hg : g.output = outputOf root options p)
    (h : b.tree.makeDirectories (Path.dir g.output) = .ok t') :
    FileTree.MakesDirectory b.tree (placeDirectory t root options p) t' := by
  have hclean : Path.clean (Path.dir g.output) = Path.dir g.output := Path.clean_clean _
  have hmakes := (hb.rooted ht).makesDirectory hclean h
  rwa [hb.locate_eq, hg] at hmakes

theorem Frame.writes (hb : Frame t root options sources b) (ht : t.Rooted) {g : Generated}
    (hg : g.output = outputOf root options p)
    (hdir : b.tree.root.isDirectoryAt (placeDirectory t root options p))
    (h : b.tree.write g.output g.code = .ok t') :
    FileTree.Writes b.tree (place t root options p) g.code t' := by
  rw [hg] at h
  have hwrites := (hb.rooted ht).writes (clean_outputOf root options p) (by rwa [hb.locate_eq]) h
  rwa [hb.locate_eq] at hwrites

theorem Frame.acts (hb : Frame t root options sources b) (ht : t.Rooted) (hp : p ∈ sources)
    (h : Stage.Acts root options p b.tree (b.stage p) t' stage) :
    Frame t root options sources (b.set p t' stage) := by
  have hgenerated := hb.generated p
  have hplaced := hb.placed p
  generalize hstage : b.stage p = before at h hgenerated hplaced
  cases h with
  | @compile g h =>
      obtain ⟨hname, houtput, _⟩ := generate_eq_ok h
      refine hb.set hp rfl (by simp [Stage.isPlaced]) (fun _ _ => rfl)
        (by simp [hstage, Stage.output?]) ?_
      intro g' hg'
      obtain rfl : g = g' := Option.some.inj hg'
      exact ⟨hname, houtput.trans (outputOf_withDefaults root options p)⟩
  | @makeDirectory g t' h =>
      obtain ⟨_, houtput⟩ := hgenerated g rfl
      have hmakes := hb.makesDirectory ht houtput h
      refine hb.set hp hmakes.workingDirectory ?_ (fun cs _ => hmakes.fileAt? cs)
        (by simp [hstage, Stage.output?]) hgenerated
      intro cs
      rw [hmakes.isDirectoryAt cs]
      simp [Stage.isPlaced]
  | @write g t' h =>
      obtain ⟨_, houtput⟩ := hgenerated g rfl
      have hdir := hplaced rfl
      have hwrites := hb.writes ht houtput hdir h
      refine hb.set hp hwrites.workingDirectory ?_ ?_ (fun _ => rfl) hgenerated
      · intro cs
        rw [hwrites.isDirectoryAt cs]
        refine ⟨.inl, ?_⟩
        rintro (hcs | ⟨_, hcs⟩)
        · exact hcs
        · exact Entry.isDirectoryAt_mono hdir hcs
      · intro cs hcs
        rw [hwrites.fileAt? cs, if_neg (Ne.symm (hcs rfl))]
  | fail h =>
      exact hb.set hp rfl (by simp [Stage.isPlaced]) (fun _ _ => rfl) (by simp [hstage, h])
        fun g hg => by cases hg
  | rest =>
      refine hb.set hp rfl ?_ (fun _ _ => rfl) (by simp [hstage]) hgenerated
      intro cs
      refine ⟨.inl, ?_⟩
      rintro (hcs | ⟨hdone, hcs⟩)
      · exact hcs
      · exact Entry.isDirectoryAt_mono (hplaced hdone) hcs

theorem Frame.step (hb : Frame t root options sources b) (ht : t.Rooted) (hp : p ∈ sources) :
    Frame t root options sources (b.step root options p) :=
  hb.acts ht hp (Stage.acts_next root options p b.tree (b.stage p))

/-- What every action of a job keeps, all actions of a schedule keep. -/
theorem run_induction {motive : Batch → Prop} (hb : motive b)
    (hschedule : ∀ p ∈ schedule, p ∈ sources)
    (hstep : ∀ b p, p ∈ sources → motive b → motive (b.step root options p)) :
    motive (b.run root options schedule) := by
  induction schedule generalizing b with
  | nil => exact hb
  | cons p schedule ih =>
      have hp := hschedule p List.mem_cons_self
      exact ih (hstep b p hp hb) fun q hq => hschedule q (List.mem_cons_of_mem p hq)

theorem frame_run (ht : t.Rooted) (hschedule : ∀ p ∈ schedule, p ∈ sources) :
    Frame t root options sources ((start t).run root options schedule) :=
  run_induction (frame_start t root options sources) hschedule fun _ _ hp hb => hb.step ht hp

theorem IsFinished.exists_written (h : b.IsFinished sources) (hp : p ∈ sources) :
    ∃ g, b.stage p = .written g := by
  have hout := h p hp
  cases hstage : b.stage p with
  | written g => exact ⟨g, rfl⟩
  | waiting | compiled g | placed g | failed fault => simp [hstage, Stage.output?] at hout

/-- A finished batch has one output for each source. -/
theorem Frame.outputs_eq (hb : Frame t root options sources b) (h : b.IsFinished sources) :
    b.outputs sources = sources.map (outputOf root options) := by
  unfold outputs
  rw [← List.filterMap_eq_map]
  apply List.filterMap_congr
  intro p hp
  obtain ⟨g, hg⟩ := h.exists_written hp
  have houtput := (hb.generated p g (by rw [hg]; rfl)).2
  rw [hg, Stage.output?, houtput, Function.comp]

end Batch

/-! ## What the jobs write -/

/-- `code` is the code of the source `p`, as the tree `t` has it. -/
def Compiles (t : FileTree) (options : Options) (p code : Bytes) : Prop :=
  ∃ src, t.read p = .ok src ∧
    (compileSource { bytes := src } (upperFirst (stem p)) options.withDefaults).result = .ok code

theorem Compiles.unique {t : FileTree} {options : Options} {p x y : Bytes}
    (hx : Compiles t options p x) (hy : Compiles t options p y) :
    x = y := by
  obtain ⟨src, hread, hx⟩ := hx
  obtain ⟨src', hread', hy⟩ := hy
  obtain rfl : src = src' := Except.ok.inj (hread.symm.trans hread')
  exact Except.ok.inj (hx.symm.trans hy)

/-- No output is written over another source. -/
def SparesSources (t : FileTree) (root : Bytes) (options : Options) (sources : List Bytes) : Prop :=
  ∀ p ∈ sources, ∀ q ∈ sources, place t root options p = t.locate q → p = q

/-- Sources whose outputs are written to one place have the same code. -/
def PlacesAgree (t : FileTree) (root : Bytes) (options : Options) (sources : List Bytes) : Prop :=
  ∀ p ∈ sources, ∀ q ∈ sources, place t root options p = place t root options q →
    ∀ x y, Compiles t options p x → Compiles t options q y → x = y

/-- A path that leads to a file. -/
structure IsSourceFile (t : FileTree) (p : Bytes) : Prop where
  clean : Path.clean p = p
  isFile : ∃ content, t.root.fileAt? (t.locate p) = some content

/-- What keeps the jobs of a tree apart. -/
structure Separate (t : FileTree) (root : Bytes) (options : Options) (sources : List Bytes) :
    Prop where
  rooted : t.Rooted
  files : ∀ p ∈ sources, IsSourceFile t p
  spares : SparesSources t root options sources
  agree : PlacesAgree t root options sources

namespace Batch

/-- All that the jobs have generated, and all that is written for them, is the code of their sources
in the tree `t` of the beginning. -/
structure Faithful (t : FileTree) (root : Bytes) (options : Options) (sources : List Bytes)
    (b : Batch) :
    Prop extends Frame t root options sources b where
  compiled : ∀ p ∈ sources, ∀ g, (b.stage p).generated? = some g →
    (generate t root p [] options.withDefaults).result = .ok g
  written : ∀ p ∈ sources, ∀ g, b.stage p = .written g →
    b.tree.root.fileAt? (place t root options p) = some g.code

variable {t t' : FileTree} {root : Bytes} {options : Options} {sources schedule : List Bytes}
  {b : Batch}
  {p : Bytes} {stage : Stage}

theorem faithful_start (t : FileTree) (root : Bytes) (options : Options) (sources : List Bytes) :
    Faithful t root options sources (start t) where
  toFrame := frame_start t root options sources
  compiled := fun _ _ _ h => by cases h
  written := fun _ _ _ h => by cases h

/-- A source is read as it was at the beginning while nothing is written over it. -/
theorem Frame.read_eq (hb : Frame t root options sources b) (ht : t.Rooted) (hp : IsSourceFile t p)
    (h : ∀ q ∈ sources, (b.stage q).output?.isSome → place t root options q ≠ t.locate p) :
    b.tree.read p = t.read p := by
  obtain ⟨content, hcontent⟩ := hp.isFile
  have hnow : b.tree.root.fileAt? (b.tree.locate p) = some content := by
    rw [hb.locate_eq, hb.files _ h, hcontent]
  rw [((hb.rooted ht).read_eq_ok_iff hp.clean).mpr hnow, (ht.read_eq_ok_iff hp.clean).mpr hcontent]

theorem Frame.generate_eq (hb : Frame t root options sources b)
    (hsep : Separate t root options sources) (hp : p ∈ sources) (hwaiting : b.stage p = .waiting) :
    generate b.tree root p [] options.withDefaults = generate t root p [] options.withDefaults := by
  apply generate_congr
  apply hb.read_eq hsep.rooted (hsep.files p hp)
  intro q hq hdone hplace
  obtain rfl := hsep.spares q hq p hp hplace
  simp [hwaiting, Stage.output?] at hdone

theorem Faithful.set (hb : Faithful t root options sources b)
    (hframe : Frame t root options sources (b.set p t' stage))
    (hgenerated : ∀ g, stage.generated? = some g →
      (generate t root p [] options.withDefaults).result = .ok g)
    (hself : ∀ g, stage = .written g → t'.root.fileAt? (place t root options p) = some g.code)
    (hothers : ∀ q ∈ sources, ∀ g, b.stage q = .written g →
      t'.root.fileAt? (place t root options q) = some g.code) :
    Faithful t root options sources (b.set p t' stage) where
  toFrame := hframe
  compiled := by
    intro q hq g hg
    by_cases hne : q = p
    · subst hne
      rw [set_stage_self] at hg
      exact hgenerated g hg
    · rw [set_stage_of_ne b hne] at hg
      exact hb.compiled q hq g hg
  written := by
    intro q hq g hg
    by_cases hne : q = p
    · subst hne
      rw [set_stage_self] at hg
      exact hself g hg
    · rw [set_stage_of_ne b hne] at hg
      exact hothers q hq g hg

theorem compiles_of_generate {g : Generated}
    (h : (generate t root p [] options.withDefaults).result = .ok g) :
    Compiles t options p g.code :=
  (generate_eq_ok h).2.2

theorem Faithful.acts (hb : Faithful t root options sources b)
    (hsep : Separate t root options sources) (hp : p ∈ sources)
    (h : Stage.Acts root options p b.tree (b.stage p) t' stage) :
    Faithful t root options sources (b.set p t' stage) := by
  have hframe := hb.toFrame.acts hsep.rooted hp h
  have hgenerated := hb.compiled p hp
  have houtput := hb.generated p
  have hplaced := hb.placed p
  generalize hstage : b.stage p = before at h hgenerated houtput hplaced
  cases h with
  | @compile g h =>
      rw [hb.generate_eq hsep hp hstage] at h
      refine hb.set hframe ?_ (fun _ hg => by cases hg) hb.written
      intro g' hg'
      obtain rfl : g = g' := Option.some.inj hg'
      exact h
  | @makeDirectory g t' h =>
      have hmakes := hb.makesDirectory hsep.rooted (houtput g rfl).2 h
      refine hb.set hframe hgenerated (fun _ hg => by cases hg) ?_
      intro q hq g' hg'
      rw [hmakes.fileAt?]
      exact hb.written q hq g' hg'
  | @write g t' h =>
      have hwrites := hb.writes hsep.rooted (houtput g rfl).2 (hplaced rfl) h
      refine hb.set hframe hgenerated ?_ ?_
      · intro g' hg'
        obtain rfl : g = g' := Stage.written.inj hg'
        rw [hwrites.fileAt?, if_pos rfl]
      · intro q hq g' hg'
        rw [hwrites.fileAt?]
        split
        · rename_i hplace
          -- a place that is written again gets the same code
          have hcode := compiles_of_generate (hgenerated g rfl)
          have hcode' := compiles_of_generate (hb.compiled q hq g' (by rw [hg']; rfl))
          rw [hsep.agree p hp q hq hplace.symm g.code g'.code hcode hcode']
        · exact hb.written q hq g' hg'
  | fail h => exact hb.set hframe (fun _ hg => by cases hg) (fun _ hg => by cases hg) hb.written
  | rest =>
      refine hb.set hframe hgenerated ?_ hb.written
      intro g hg
      exact hb.written p hp g (hstage.trans hg)

theorem Faithful.step (hb : Faithful t root options sources b)
    (hsep : Separate t root options sources) (hp : p ∈ sources) :
    Faithful t root options sources (b.step root options p) :=
  hb.acts hsep hp (Stage.acts_next root options p b.tree (b.stage p))

theorem faithful_run (hsep : Separate t root options sources)
    (hschedule : ∀ p ∈ schedule, p ∈ sources) :
    Faithful t root options sources ((start t).run root options schedule) :=
  run_induction (faithful_start t root options sources) hschedule fun _ _ hp hb => hb.step hsep hp

end Batch

end ComponentCompiler.Component
