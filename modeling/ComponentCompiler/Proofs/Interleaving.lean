import ComponentCompiler.Proofs.Schedule
import Mathlib

/-!
# What every schedule builds

Where one schedule finishes, nothing is in the way of the outputs, so every schedule that gives
each source three turns finishes and leaves the same files. Building one source after another is
such a schedule.
-/

namespace ComponentCompiler.Component

/-! ## Schedules that finish -/

/-- Every source compiles, and nothing is in the way of the outputs: no file or output is where a
directory has to be, and no directory where an output has to be. -/
structure Buildable (t : FileTree) (root : Bytes) (options : Options) (sources : List Bytes) :
    Prop where
  generated : ∀ p ∈ sources, ∃ g, (generate t root p [] options.withDefaults).result = .ok g
  way : ∀ p ∈ sources, ∀ cs, cs <+: placeDirectory t root options p →
    t.root.fileAt? cs = none ∧ ∀ q ∈ sources, place t root options q ≠ cs
  free : ∀ p ∈ sources, ¬t.root.isDirectoryAt (place t root options p)

namespace Batch

variable {t : FileTree} {root : Bytes} {options : Options} {sources schedule : List Bytes}
  {b : Batch}
  {p : Bytes}

theorem Faithful.fileAt?_place (hb : Faithful t root options sources b) (h : b.IsFinished sources)
    (hp : p ∈ sources) : ∃ g, (generate t root p [] options.withDefaults).result = .ok g ∧
      b.tree.root.fileAt? (place t root options p) = some g.code := by
  obtain ⟨g, hg⟩ := h.exists_written hp
  exact ⟨g, hb.compiled p hp g (by rw [hg]; rfl), hb.written p hp g hg⟩

theorem Faithful.buildable (hb : Faithful t root options sources b) (h : b.IsFinished sources) :
    Buildable t root options sources where
  generated := by
    intro p hp
    obtain ⟨g, hg, _⟩ := hb.fileAt?_place h hp
    exact ⟨g, hg⟩
  way := by
    intro p hp cs hcs
    obtain ⟨g, hg⟩ := h.exists_written hp
    have hdir := Entry.isDirectoryAt_mono (hb.placed p (by rw [hg]; rfl)) hcs
    have hnone := Entry.fileAt?_eq_none_of_isDirectoryAt hdir
    have hplace : ∀ q ∈ sources, place t root options q ≠ cs := by
      rintro q hq rfl
      obtain ⟨g', _, hfile⟩ := hb.fileAt?_place h hq
      rw [hnone] at hfile
      cases hfile
    rw [← hb.files cs fun q hq _ => hplace q hq]
    exact ⟨hnone, hplace⟩
  free := by
    intro p hp hdir
    obtain ⟨g, _, hfile⟩ := hb.fileAt?_place h hp
    rw [Entry.fileAt?_eq_none_of_isDirectoryAt (hb.kept _ hdir)] at hfile
    cases hfile

theorem Faithful.isFailed_next (hb : Faithful t root options sources b)
    (hsep : Separate t root options sources) (hbuild : Buildable t root options sources)
    (hp : p ∈ sources) (h : (b.stage p).isFailed = false) :
    ((b.stage p).next root options p b.tree).2.isFailed = false := by
  have htree := hb.rooted hsep.rooted
  have houtput := hb.generated p
  cases hstage : b.stage p with
  | waiting =>
      obtain ⟨g, hg⟩ := hbuild.generated p hp
      rw [Stage.next, hb.generate_eq hsep hp hstage, hg]
      rfl
  | compiled g =>
      obtain ⟨t', ht'⟩ : ∃ t', b.tree.makeDirectories (Path.dir g.output) = .ok t' := by
        apply htree.exists_makeDirectories (Path.clean_clean _)
        intro cs hcs
        rw [hb.locate_eq, (houtput g (by rw [hstage]; rfl)).2] at hcs
        obtain ⟨hfile, hplace⟩ := hbuild.way p hp cs hcs
        rw [hb.files cs fun q hq _ => hplace q hq, hfile]
      rw [Stage.next, ht']
      rfl
  | placed g =>
      obtain ⟨t', ht'⟩ : ∃ t', b.tree.write g.output g.code = .ok t' := by
        rw [(houtput g (by rw [hstage]; rfl)).2]
        apply htree.exists_write (clean_outputOf root options p)
        rw [hb.locate_eq]
        intro hdir
        rcases hb.made _ hdir with hdir | ⟨q, hq, hcs⟩
        · exact hbuild.free p hp hdir
        · exact (hbuild.way q hq _ hcs).2 p hp rfl
      rw [Stage.next, ht']
      rfl
  | written g => rfl
  | failed fault => simp [hstage, Stage.isFailed] at h

theorem Faithful.turns_run (hb : Faithful t root options sources b)
    (hsep : Separate t root options sources) (hbuild : Buildable t root options sources)
    (hok : ∀ p ∈ sources, (b.stage p).isFailed = false) (hschedule : ∀ p ∈ schedule, p ∈ sources) :
    ∀ p ∈ sources, ((b.run root options schedule).stage p).isFailed = false ∧
      ((b.run root options schedule).stage p).turns =
        min 3 ((b.stage p).turns + schedule.count p) := by
  induction schedule generalizing b with
  | nil =>
      intro p hp
      have hle := (b.stage p).turns_le
      refine ⟨hok p hp, ?_⟩
      rw [List.count_nil, run, List.foldl_nil]
      omega
  | cons q schedule ih =>
      have hq := hschedule q List.mem_cons_self
      have hnext := hb.isFailed_next hsep hbuild hq (hok q hq)
      have hstage : ∀ p ∈ sources, ((b.step root options q).stage p).isFailed = false ∧
          ((b.step root options q).stage p).turns =
            min 3 ((b.stage p).turns + if p = q then 1 else 0) := by
        intro p hp
        by_cases hne : p = q
        · subst hne
          rw [Batch.step, set_stage_self, if_pos rfl]
          exact ⟨hnext, Stage.turns_next hnext⟩
        · have hle := (b.stage p).turns_le
          rw [Batch.step, set_stage_of_ne b hne, if_neg hne]
          exact ⟨hok p hp, by omega⟩
      have hrest := ih (hb.step hsep hq) (fun p hp => (hstage p hp).1) fun p hp =>
        hschedule p (List.mem_cons_of_mem q hp)
      intro p hp
      obtain ⟨hfailed, hturns⟩ := hrest p hp
      refine ⟨hfailed, hturns.trans ?_⟩
      rw [(hstage p hp).2, List.count_cons]
      by_cases hne : p = q
      · subst hne
        simp only [if_true, beq_self_eq_true]
        omega
      · rw [if_neg hne, if_neg (by simpa using Ne.symm hne)]
        omega

/-- If some schedule finishes, every schedule that gives each source three turns does. -/
theorem isFinished_of_buildable (hsep : Separate t root options sources)
    (hbuild : Buildable t root options sources) (hschedule : ∀ p ∈ schedule, p ∈ sources)
    (hcount : ∀ p ∈ sources, 3 ≤ schedule.count p) :
    ((start t).run root options schedule).IsFinished sources := by
  intro p hp
  obtain ⟨hfailed, hturns⟩ := (faithful_start t root options sources).turns_run hsep hbuild
    (fun _ _ => rfl) hschedule p hp
  have hcount := hcount p hp
  have hthree : (((start t).run root options schedule).stage p).turns = 3 := by omega
  cases hstage : ((start t).run root options schedule).stage p with
  | written g => rfl
  | failed fault => simp [hstage, Stage.isFailed] at hfailed
  | waiting | compiled g | placed g => simp [hstage, Stage.turns] at hthree

/-! ## One source after another -/

/-- The schedule that gives each source three turns in a row. -/
def inOrder (sources : List Bytes) : List Bytes := sources.flatMap fun p => [p, p, p]

theorem mem_inOrder : p ∈ inOrder sources ↔ p ∈ sources := by
  simp [inOrder]

theorem three_le_count_inOrder (hp : p ∈ sources) : 3 ≤ (inOrder sources).count p := by
  induction sources with
  | nil => cases hp
  | cons q sources ih =>
      rw [inOrder, List.flatMap_cons, List.count_append]
      rcases List.mem_cons.mp hp with rfl | hp
      · simp
      · exact Nat.le_add_left_of_le (ih hp)

theorem run_withDefaults (b : Batch) (root : Bytes) (options : Options) (schedule : List Bytes) :
    b.run root options.withDefaults schedule = b.run root options schedule := by
  have hstep : step root options.withDefaults = step root options := by
    funext b p
    unfold step Stage.next
    rw [withDefaults_withDefaults]
  unfold run
  rw [hstep]

theorem set_set (b : Batch) (p : Bytes) (t t' : FileTree) (stage stage' : Stage) :
    (b.set p t stage).set p t' stage' = b.set p t' stage' := by
  unfold set
  congr 1
  funext q
  by_cases hne : q = p <;> simp [hne]

theorem step_set (b : Batch) (p : Bytes) (t : FileTree) (stage : Stage) :
    (b.set p t stage).step root options p =
      b.set p (stage.next root options p t).1 (stage.next root options p t).2 := by
  rw [step, set_stage_self, set_set]
  rfl

theorem run_append (b : Batch) (schedule schedule' : List Bytes) :
    b.run root options (schedule ++ schedule') =
      (b.run root options schedule).run root options schedule' :=
  List.foldl_append

theorem run_stage_of_not_mem (h : p ∉ schedule) :
    (b.run root options schedule).stage p = b.stage p := by
  induction schedule generalizing b with
  | nil => rfl
  | cons q schedule ih =>
      rw [List.mem_cons, not_or] at h
      change ((b.step root options q).run root options schedule).stage p = b.stage p
      rw [ih h.2, step, set_stage_of_ne b h.1]

/-- Three turns in a row build a source. -/
theorem run_three (root : Bytes) (options : Options) (hwaiting : b.stage p = .waiting) :
    (b.run root options [p, p, p]).tree = (compileFileInRoot b.tree root p [] options).1 ∧
      ∀ output, ((b.run root options [p, p, p]).stage p).output? = some output ↔
        (compileFileInRoot b.tree root p [] options).2.result = .ok output := by
  have hrun : b.run root options [p, p, p] =
      ((b.step root options p).step root options p).step root options p := rfl
  rw [hrun, show b.step root options p = b.set p _ _ from rfl, step_set, step_set, set_stage_self,
    hwaiting, Stage.next, compileFileInRoot]
  cases hgenerate : (generate b.tree root p [] options.withDefaults).result with
  | error fault => simp [Stage.next, set, Stage.output?]
  | ok g =>
      cases hmake : b.tree.makeDirectories (Path.dir g.output) with
      | error fault => simp [Stage.next, set, Stage.output?, writeGenerated, hmake]
      | ok t' =>
          cases hwrite : t'.write g.output g.code with
          | error fault => simp [Stage.next, set, Stage.output?, writeGenerated, hmake, hwrite]
          | ok t'' => simp [Stage.next, set, Stage.output?, writeGenerated, hmake, hwrite]

theorem outputs_cons {output : Bytes} {ps : List Bytes} (h : (b.stage p).output? = some output) :
    b.outputs (p :: ps) = output :: b.outputs ps := by
  rw [outputs, List.filterMap_cons, h]
  rfl

theorem compileInOrder_cons {output : Bytes} (ps : List Bytes)
    (h : (compileFileInRoot t root p [] options).2.result = .ok output) :
    (compileInOrder root options t (p :: ps)).1 =
        (compileInOrder root options (compileFileInRoot t root p [] options).1 ps).1 ∧
      (compileInOrder root options t (p :: ps)).2.result =
        (compileInOrder root options (compileFileInRoot t root p [] options).1 ps).2.result.map
          (output :: ·) := by
  rw [compileInOrder]
  generalize compileFileInRoot t root p [] options = built at h ⊢
  obtain ⟨t', first⟩ := built
  dsimp only at h ⊢
  rw [h]
  exact ⟨rfl, rfl⟩

theorem compileInOrder_cons_error {fault : BuildFault} (ps : List Bytes)
    (h : (compileFileInRoot t root p [] options).2.result = .error fault) :
    (compileInOrder root options t (p :: ps)).1 = (compileFileInRoot t root p [] options).1 ∧
      (compileInOrder root options t (p :: ps)).2.result = .error fault := by
  rw [compileInOrder]
  generalize compileFileInRoot t root p [] options = built at h ⊢
  obtain ⟨t', first⟩ := built
  dsimp only at h ⊢
  rw [h]
  exact ⟨rfl, rfl⟩

theorem run_three_waiting {ps : List Bytes} (root : Bytes) (options : Options) (hp : p ∉ ps)
    (hwaiting : ∀ q ∈ p :: ps, b.stage q = .waiting) :
    ∀ q ∈ ps, (b.run root options [p, p, p]).stage q = .waiting := by
  intro q hq
  have hne : q ≠ p := fun heq => hp (heq ▸ hq)
  rw [run_stage_of_not_mem (by simpa using hne)]
  exact hwaiting q (List.mem_cons_of_mem p hq)

/-- Building sources in order is a schedule, also if a source fails: those behind it get no turn. -/
theorem exists_schedule_compileInOrder (hnodup : sources.Nodup)
    (hwaiting : ∀ p ∈ sources, b.stage p = .waiting) :
    ∃ schedule, (∀ p ∈ schedule, p ∈ sources) ∧
      (compileInOrder root options b.tree sources).1 = (b.run root options schedule).tree ∧
      ∀ outputs, (compileInOrder root options b.tree sources).2.result = .ok outputs →
        (b.run root options schedule).IsFinished sources := by
  induction sources generalizing b with
  | nil => exact ⟨[], by simp, rfl, fun _ _ _ hp => by cases hp⟩
  | cons p ps ih =>
      rw [List.nodup_cons] at hnodup
      obtain ⟨htree, houtput⟩ := run_three root options (hwaiting p List.mem_cons_self)
      cases hfirst : (compileFileInRoot b.tree root p [] options).2.result with
      | error fault =>
          obtain ⟨htree', hresult'⟩ := compileInOrder_cons_error ps hfirst
          refine ⟨[p, p, p], by simp, htree'.trans htree.symm, ?_⟩
          intro outputs hok
          rw [hresult'] at hok
          cases hok
      | ok output =>
          obtain ⟨schedule, hschedule, hrest, hfinished⟩ :=
            ih hnodup.2 (run_three_waiting root options hnodup.1 hwaiting)
          obtain ⟨htree', hresult'⟩ := compileInOrder_cons ps hfirst
          rw [← htree] at htree' hresult'
          refine ⟨[p, p, p] ++ schedule, ?_, htree'.trans (by rw [hrest, run_append]), ?_⟩
          · simp only [List.mem_append, List.mem_cons, List.not_mem_nil, or_false, or_self]
            rintro q (rfl | hq)
            · exact .inl rfl
            · exact .inr (hschedule q hq)
          · intro outputs hok
            rw [hresult'] at hok
            rw [run_append]
            refine List.forall_mem_cons.mpr ⟨?_, ?_⟩
            · rw [run_stage_of_not_mem fun hp => hnodup.1 (hschedule p hp),
                (houtput output).mpr hfirst]
              rfl
            · cases hothers :
                (compileInOrder root options (b.run root options [p, p, p]).tree ps).2.result with
              | error fault => simp [hothers, Except.map] at hok
              | ok others => exact hfinished others hothers

/-- Building sources in order is a schedule. -/
theorem compileInOrder_eq (hnodup : sources.Nodup) (hwaiting : ∀ p ∈ sources, b.stage p = .waiting)
    (h : (b.run root options (inOrder sources)).IsFinished sources) :
    (compileInOrder root options b.tree sources).1 =
        (b.run root options (inOrder sources)).tree ∧
      (compileInOrder root options b.tree sources).2.result =
        .ok ((b.run root options (inOrder sources)).outputs sources) := by
  induction sources generalizing b with
  | nil => exact ⟨rfl, rfl⟩
  | cons p ps ih =>
      rw [List.nodup_cons] at hnodup
      rw [inOrder, List.flatMap_cons, run_append] at h ⊢
      have hlater : p ∉ inOrder ps := by rw [mem_inOrder]; exact hnodup.1
      obtain ⟨htree, houtput⟩ := run_three root options (hwaiting p List.mem_cons_self)
      have hothers := run_three_waiting root options hnodup.1 hwaiting
      obtain ⟨hrest, hresult⟩ := ih hnodup.2 hothers fun q hq => h q (List.mem_cons_of_mem p hq)
      obtain ⟨output, hdone⟩ := Option.isSome_iff_exists.mp (h p List.mem_cons_self)
      have hfirst : (compileFileInRoot b.tree root p [] options).2.result = .ok output := by
        apply (houtput output).mp
        rw [← hdone]
        exact congrArg Stage.output? (run_stage_of_not_mem hlater).symm
      rw [htree] at hrest hresult
      obtain ⟨htree', hresult'⟩ := compileInOrder_cons ps hfirst
      refine ⟨htree'.trans hrest, hresult'.trans ?_⟩
      rw [hresult, outputs_cons hdone]
      rfl

/-- Building the sources of a directory is the schedule that gives each source three
turns in a row. -/
theorem compileDirectory_eq
    (hsources : discover t (Path.absolute t.cwd root) options.withDefaults.extension = .ok sources)
    (hnodup : sources.Nodup)
    (h : ((start t).run (Path.absolute t.cwd root) options (inOrder sources)).IsFinished
      sources) :
    (compileDirectory t root options false).1 =
        ((start t).run (Path.absolute t.cwd root) options (inOrder sources)).tree ∧
      (compileDirectory t root options false).2.result =
        .ok (Bytes.sort (((start t).run (Path.absolute t.cwd root) options
          (inOrder sources)).outputs sources)) := by
  rw [← run_withDefaults] at h ⊢
  obtain ⟨htree, hresult⟩ := compileInOrder_eq hnodup (fun _ _ => rfl) h
  unfold compileDirectory
  dsimp only
  rw [hsources]
  dsimp only [start] at htree hresult ⊢
  rw [Bool.false_and, if_neg (by decide), hresult]
  exact ⟨htree, rfl⟩

/-! ## The outcome of a schedule -/

/-- The files at the end do not depend on the schedule. -/
theorem Faithful.fileAt?_eq {b' : Batch} (hb : Faithful t root options sources b)
    (h : b.IsFinished sources) (hb' : Faithful t root options sources b')
    (h' : b'.IsFinished sources) (cs : List Bytes) :
    b.tree.root.fileAt? cs = b'.tree.root.fileAt? cs := by
  by_cases hcs : ∃ p ∈ sources, place t root options p = cs
  · obtain ⟨p, hp, rfl⟩ := hcs
    obtain ⟨g, hg, hfile⟩ := hb.fileAt?_place h hp
    obtain ⟨g', hg', hfile'⟩ := hb'.fileAt?_place h' hp
    obtain rfl : g = g' := Except.ok.inj (hg.symm.trans hg')
    rw [hfile, hfile']
  · have hnone : ∀ p ∈ sources, place t root options p ≠ cs := fun p hp heq => hcs ⟨p, hp, heq⟩
    rw [hb.files cs fun p hp _ => hnone p hp, hb'.files cs fun p hp _ => hnone p hp]

end Batch

/-- The file at the output path of the source `p` holds the code that `p` has in the tree `t`. -/
def KeepsComponent (t t' : FileTree) (root : Bytes) (options : Options) (p : Bytes) : Prop :=
  ∃ code, Compiles t options p code ∧ t'.read (outputOf root options p) = .ok code

namespace Batch

variable {t : FileTree} {root : Bytes} {options : Options} {sources : List Bytes} {b : Batch}

theorem Frame.read_output_eq_ok_iff (hb : Frame t root options sources b) (ht : t.Rooted)
    {p code : Bytes} :
    b.tree.read (outputOf root options p) = .ok code ↔
      b.tree.root.fileAt? (place t root options p) = some code := by
  rw [(hb.rooted ht).read_eq_ok_iff (clean_outputOf root options p), hb.locate_eq, place]

theorem Faithful.keepsComponent (hb : Faithful t root options sources b) (ht : t.Rooted)
    (h : b.IsFinished sources) : ∀ p ∈ sources, KeepsComponent t b.tree root options p := by
  intro p hp
  obtain ⟨g, hg, hfile⟩ := hb.fileAt?_place h hp
  exact ⟨g.code, compiles_of_generate hg, (hb.read_output_eq_ok_iff ht).mpr hfile⟩

/-- One file does not hold two codes. -/
theorem Frame.placesAgree (hb : Frame t root options sources b) (ht : t.Rooted)
    (h : ∀ p ∈ sources, KeepsComponent t b.tree root options p) :
    PlacesAgree t root options sources := by
  intro p hp q hq hplace x y hx hy
  obtain ⟨code, hcode, hread⟩ := h p hp
  obtain ⟨code', hcode', hread'⟩ := h q hq
  rw [hb.read_output_eq_ok_iff ht] at hread hread'
  rw [hplace, hread'] at hread
  rw [hx.unique hcode, hy.unique hcode']
  exact (Option.some.inj hread).symm

end Batch

section

variable {t : FileTree} {root : Bytes} {options : Options} {sources : List Bytes}
  (ht : t.WellFormed)
  (hsources : discover t (Path.absolute t.cwd root) options.withDefaults.extension = .ok sources)

include ht hsources

theorem separate_of_discover (hspares : SparesSources t (Path.absolute t.cwd root) options sources)
    (hagree : PlacesAgree t (Path.absolute t.cwd root) options sources) :
    Separate t (Path.absolute t.cwd root) options sources := by
  refine ⟨ht.rooted, ?_, hspares, hagree⟩
  obtain ⟨habsolute, hclean⟩ := ht.rooted.absolute_eq root
  rw [habsolute] at hsources
  intro p hp
  obtain ⟨ps, name, rfl, hp, hfile, _⟩ := exists_source ht hclean hsources hp
  refine ⟨Path.clean_ofComponents hp, ?_⟩
  rwa [ht.rooted.locate_of_isClean hp]

theorem sparesSources_of_plainExtensions (hopts : PlainExtensions options)
    (hnames : ∀ p ∈ sources, Script.isIdentifier (upperFirst (stem p))) :
    SparesSources t (Path.absolute t.cwd root) options sources := by
  obtain ⟨habsolute, hclean⟩ := ht.rooted.absolute_eq root
  rw [habsolute] at hsources ⊢
  exact eq_of_place_eq ht hclean hsources hnames hopts rfl

theorem placesAgree_of_namesApart (hext : Ascii.slash ∉ options.withDefaults.outExtension)
    (hnames : ∀ p ∈ sources, Script.isIdentifier (upperFirst (stem p)))
    (hapart : NamesApart sources) :
    PlacesAgree t (Path.absolute t.cwd root) options sources := by
  obtain ⟨habsolute, hclean⟩ := ht.rooted.absolute_eq root
  rw [habsolute] at hsources ⊢
  have hnodup := (nodup_places_iff ht hclean hsources hnames hext).mpr hapart
  rw [List.nodup_map_iff_inj_on (nodup_of_discover ht hclean hsources)] at hnodup
  intro p hp q hq hplace x y hx hy
  obtain rfl : p = q := hnodup p hp q hq hplace
  exact hx.unique hy

end

/-- The sources of a directory, built in the order of a schedule. -/
def interleave (t : FileTree) (root : Bytes) (options : Options) (schedule : List Bytes) : Batch :=
  (Batch.start t).run (Path.absolute t.cwd root) options schedule

/-- If one schedule finishes, building in order does, and both have the same outputs and files. -/
theorem compileDirectory_eq_interleave {t : FileTree} {root : Bytes} {options : Options}
    {sources schedule : List Bytes} (ht : t.WellFormed)
    (hsources : discover t (Path.absolute t.cwd root) options.withDefaults.extension = .ok sources)
    (hspares : SparesSources t (Path.absolute t.cwd root) options sources)
    (hagree : PlacesAgree t (Path.absolute t.cwd root) options sources)
    (hschedule : ∀ p ∈ schedule, p ∈ sources)
    (hfinished : (interleave t root options schedule).IsFinished sources) :
    (compileDirectory t root options false).2.result =
        .ok (Bytes.sort ((interleave t root options schedule).outputs sources)) ∧
      ∀ cs, (compileDirectory t root options false).1.root.fileAt? cs =
        (interleave t root options schedule).tree.root.fileAt? cs := by
  obtain ⟨habsolute, hclean⟩ := ht.rooted.absolute_eq root
  have hnodup : sources.Nodup := nodup_of_discover ht hclean (habsolute ▸ hsources)
  have hsep := separate_of_discover ht hsources hspares hagree
  have hrun := Batch.faithful_run hsep hschedule
  have hturns : ∀ p ∈ Batch.inOrder sources, p ∈ sources := fun p hp => Batch.mem_inOrder.mp hp
  have horder := Batch.faithful_run hsep hturns
  have hdone := Batch.isFinished_of_buildable hsep (hrun.buildable hfinished) hturns
    fun p hp => Batch.three_le_count_inOrder hp
  obtain ⟨htree, hresult⟩ := Batch.compileDirectory_eq hsources hnodup hdone
  constructor
  · rw [hresult, horder.outputs_eq hdone, ← hrun.outputs_eq hfinished]
    rfl
  · intro cs
    rw [htree]
    exact horder.fileAt?_eq hdone hrun hfinished cs

/-- A schedule that finishes gives one output for each source and changes no other file. The outputs
differ exactly if the sources of one directory have different component names. If no output is
written over another source, each output holds the code of its own source exactly if sources with
one place have the same code, and then the outputs and the files are those of building one source
after another. Names that differ are enough for this where outputs are no sources. -/
theorem interleave_outcome {t : FileTree} (root : Bytes) (options : Options)
    {sources schedule : List Bytes} (ht : t.WellFormed)
    (hsources : discover t (Path.absolute t.cwd root) options.withDefaults.extension = .ok sources)
    (hschedule : ∀ p ∈ schedule, p ∈ sources)
    (hfinished : (interleave t root options schedule).IsFinished sources) :
    let dir := Path.absolute t.cwd root
    let b := interleave t root options schedule
    b.outputs sources = sources.map (outputOf dir options) ∧
    (∀ cs, (∀ p ∈ sources, place t dir options p ≠ cs) →
      b.tree.root.fileAt? cs = t.root.fileAt? cs) ∧
    (Ascii.slash ∉ options.withDefaults.outExtension →
      ((b.outputs sources).Nodup ↔ NamesApart sources)) ∧
    (PlainExtensions options → NamesApart sources →
      SparesSources t dir options sources ∧ PlacesAgree t dir options sources) ∧
    (SparesSources t dir options sources →
      ((∀ p ∈ sources, KeepsComponent t b.tree dir options p) ↔ PlacesAgree t dir options sources) ∧
      (PlacesAgree t dir options sources →
        (compileDirectory t root options false).2.result = .ok (Bytes.sort (b.outputs sources)) ∧
        ∀ cs, (compileDirectory t root options false).1.root.fileAt? cs =
          b.tree.root.fileAt? cs)) := by
  intro dir b
  obtain ⟨habsolute, hclean⟩ := ht.rooted.absolute_eq root
  have hb : Batch.Frame t dir options sources b := Batch.frame_run ht.rooted hschedule
  have hnames : ∀ p ∈ sources, Script.isIdentifier (upperFirst (stem p)) := by
    intro p hp
    obtain ⟨g, hg⟩ := hfinished.exists_written hp
    exact (hb.generated p g (by rw [hg]; rfl)).1
  have houtputs := hb.outputs_eq hfinished
  refine ⟨houtputs, fun cs hcs => hb.files cs fun p hp _ => hcs p hp, ?_, ?_, ?_⟩
  · intro hext
    rw [houtputs, show dir = Path.ofComponents true (t.locate root) from habsolute]
    exact nodup_outputs_iff ht hclean (habsolute ▸ hsources) hnames hext
  · intro hopts hapart
    exact ⟨sparesSources_of_plainExtensions ht hsources hopts hnames,
      placesAgree_of_namesApart ht hsources hopts.slash hnames hapart⟩
  · intro hspares
    refine ⟨⟨hb.placesAgree ht.rooted, ?_⟩, ?_⟩
    · intro hagree
      have hsep := separate_of_discover ht hsources hspares hagree
      exact (Batch.faithful_run hsep hschedule).keepsComponent ht.rooted hfinished
    · intro hagree
      exact compileDirectory_eq_interleave ht hsources hspares hagree hschedule hfinished

/-- Sources of one name in a directory and below it. -/
def nestedTree : FileTree where
  root := .directory [(Bytes.lit "w", .directory [
    (Bytes.lit "a.vc", .file (Bytes.lit "<template a></template>")),
    (Bytes.lit "b", .directory [
      (Bytes.lit "a.vc", .file (Bytes.lit "<template a><p>x</p></template>"))])])]
  workingDirectory := [Bytes.lit "w"]

def nestedSources : List Bytes := [Bytes.lit "/w/a.vc", Bytes.lit "/w/b/a.vc"]

/-- The second source is compiled first, and both are being built at the same time. -/
def nestedSchedule : List Bytes :=
  [Bytes.lit "/w/b/a.vc", Bytes.lit "/w/a.vc", Bytes.lit "/w/b/a.vc", Bytes.lit "/w/a.vc",
    Bytes.lit "/w/a.vc",
    Bytes.lit "/w/b/a.vc"]

theorem wellFormed_nestedTree : nestedTree.WellFormed where
  rooted := ⟨by decide, by decide⟩
  wellNamed := by
    refine .directory (by decide) (by decide) (List.forall_mem_singleton.mpr ?_)
    refine .directory (by decide) (by decide) (List.forall_mem_cons.mpr ⟨.file _, ?_⟩)
    refine List.forall_mem_singleton.mpr ?_
    exact .directory (by decide) (by decide) (List.forall_mem_singleton.mpr (.file _))

theorem plainExtensions_default : PlainExtensions {} where
  slash := by decide
  dot := ⟨Bytes.lit "vc", rfl⟩
  differ := by decide

set_option maxRecDepth 100000 in
theorem interleave_outcome_nested :
    discover nestedTree (Bytes.lit "/w") (Bytes.lit ".vc") = .ok nestedSources ∧
    (interleave nestedTree (Bytes.lit ".") {} nestedSchedule).outputs nestedSources =
      [Bytes.lit "/w/A.js", Bytes.lit "/w/b/A.js"] ∧
    (∀ p ∈ nestedSources, KeepsComponent nestedTree
      (interleave nestedTree (Bytes.lit ".") {} nestedSchedule).tree (Bytes.lit "/w") {} p) ∧
    (compileDirectory nestedTree (Bytes.lit ".") {} false).2.result =
      .ok [Bytes.lit "/w/A.js", Bytes.lit "/w/b/A.js"] := by
  have hsources : discover nestedTree (Bytes.lit "/w") (Bytes.lit ".vc") = .ok nestedSources := by
    decide +kernel
  have hfinished :
      (interleave nestedTree (Bytes.lit ".") {} nestedSchedule).IsFinished nestedSources := by
    unfold Batch.IsFinished
    decide +kernel
  have hapart : NamesApart nestedSources := by
    unfold NamesApart
    decide +kernel
  obtain ⟨houtputs, _, _, hplain, hkeeps⟩ :=
    interleave_outcome (Bytes.lit ".") {} wellFormed_nestedTree
    hsources (by decide) hfinished
  obtain ⟨hspares, hagree⟩ := hplain plainExtensions_default hapart
  obtain ⟨hkeeps, hresult⟩ := hkeeps hspares
  have houtputs' : (interleave nestedTree (Bytes.lit ".") {} nestedSchedule).outputs nestedSources =
      [Bytes.lit "/w/A.js", Bytes.lit "/w/b/A.js"] := houtputs.trans (by decide +kernel)
  refine ⟨hsources, houtputs', hkeeps.mpr hagree, (hresult hagree).1.trans ?_⟩
  rw [houtputs']
  cbv

/-- Sources of one directory that give one component name. -/
def clashingTree : FileTree where
  root := .directory [(Bytes.lit "w", .directory [
    (Bytes.lit "Counter.vc", .file (Bytes.lit "<template counter></template>")),
    (Bytes.lit "counter.vc", .file (Bytes.lit "<template counter>x</template>"))])]
  workingDirectory := [Bytes.lit "w"]

def clashingSources : List Bytes := [Bytes.lit "/w/Counter.vc", Bytes.lit "/w/counter.vc"]

set_option maxRecDepth 100000 in
theorem result_clashingTree : (compileDirectory clashingTree (Bytes.lit ".") {} false).2.result =
    .ok [Bytes.lit "/w/Counter.js", Bytes.lit "/w/Counter.js"] := by
  have hsources : discover clashingTree (Path.absolute clashingTree.cwd (Bytes.lit "."))
      ({} : Options).withDefaults.extension = .ok clashingSources := by
    decide +kernel
  have hdone : ((Batch.start clashingTree).run (Path.absolute clashingTree.cwd (Bytes.lit ".")) {}
      (Batch.inOrder clashingSources)).IsFinished clashingSources := by
    unfold Batch.IsFinished
    decide +kernel
  have houtputs :
      ((Batch.start clashingTree).run (Path.absolute clashingTree.cwd (Bytes.lit ".")) {}
      (Batch.inOrder clashingSources)).outputs clashingSources =
      [Bytes.lit "/w/Counter.js", Bytes.lit "/w/Counter.js"] := by
    decide +kernel
  obtain ⟨_, hresult⟩ := Batch.compileDirectory_eq hsources (by decide) hdone
  rw [hresult, houtputs]
  cbv

set_option maxRecDepth 100000 in
/-- Both sources are written to one file, and the code of the first is lost. -/
theorem compileDirectory_loses_component :
    (compileDirectory clashingTree (Bytes.lit ".") {} false).2.result =
      .ok [Bytes.lit "/w/Counter.js", Bytes.lit "/w/Counter.js"] ∧
    ¬KeepsComponent clashingTree (compileDirectory clashingTree (Bytes.lit ".") {} false).1
      (Bytes.lit "/w") {}
      (Bytes.lit "/w/Counter.vc") := by
  refine ⟨result_clashingTree, ?_⟩
  rintro ⟨code, ⟨src, hread, hcode⟩, hout⟩
  have hsrc :
      clashingTree.read (Bytes.lit "/w/Counter.vc") =
        .ok (Bytes.lit "<template counter></template>") := by
    decide +kernel
  obtain rfl := Except.ok.inj (hread.symm.trans hsrc)
  have hother : (((compileDirectory clashingTree (Bytes.lit ".") {} false).1.read
      (outputOf (Bytes.lit "/w") {} (Bytes.lit "/w/Counter.vc"))).toOption ==
      (compileSource { bytes := Bytes.lit "<template counter></template>" }
        (upperFirst (stem (Bytes.lit "/w/Counter.vc")))
          ({} : Options).withDefaults).result.toOption) = false := by
    cbv
  rw [hout, hcode] at hother
  simp [Except.toOption] at hother

end ComponentCompiler.Component
