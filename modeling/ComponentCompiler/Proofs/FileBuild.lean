import ComponentCompiler.Proofs.OptionEffects
import ComponentCompiler.Proofs.TreeGrowth
import Mathlib

/-!
# What building one file changes

A source whose name, content or markup gives no code is found out before anything is written, so
building it leaves the tree as it was. Otherwise the code goes to one file. The directories that
lead to this file are made, and nothing else in the tree changes, whatever source, root, name and
options were given.
-/

namespace ComponentCompiler.FileTree

variable {t t' t'' : FileTree} {p content : Bytes}

/-- `t'` is `t` with the file `p` holding `content`, and with the directories that lead to it. -/
structure Receives (t : FileTree) (p content : Bytes) (t' : FileTree) : Prop where
  workingDirectory : t'.workingDirectory = t.workingDirectory
  read : t'.read p = .ok content
  fileAt? : ∀ cs, t'.root.fileAt? cs = if cs = t.locate p then some content else t.root.fileAt? cs
  isDirectoryAt : ∀ cs, t'.root.isDirectoryAt cs ↔
    t.root.isDirectoryAt cs ∨ cs <+: t.locate (Path.dir p)

theorem MakesDirectory.locate_eq {cs : List Bytes} (h : MakesDirectory t cs t') (q : Bytes) :
    t'.locate q = t.locate q := by
  rw [locate, locate, cwd, cwd, h.workingDirectory]

theorem MakesDirectory.receives (ht : t.Rooted) (hp : Path.clean p = p)
    (hmakes : MakesDirectory t (t.locate (Path.dir p)) t') (hwrite : t'.write p content = .ok t'') :
    Receives t p content t'' := by
  have ht' := hmakes.rooted ht
  have hdir : t'.root.isDirectoryAt (t'.locate (Path.dir p)) := by
    rw [hmakes.locate_eq, hmakes.isDirectoryAt]
    exact .inr (List.prefix_refl _)
  have hwrites := ht'.writes hp hdir hwrite
  have hfiles :
      ∀ cs, t''.root.fileAt? cs = if cs = t.locate p then some content else t.root.fileAt? cs := by
    intro cs
    rw [hwrites.fileAt? cs, hmakes.locate_eq, hmakes.fileAt?]
  have hlocate : t''.locate p = t.locate p := by
    rw [← hmakes.locate_eq p, locate, locate, cwd, cwd, hwrites.workingDirectory]
  refine ⟨hwrites.workingDirectory.trans hmakes.workingDirectory, ?_, hfiles, ?_⟩
  · rw [(hwrites.rooted ht').read_eq_ok_iff hp, hlocate, hfiles, if_pos rfl]
  · intro cs
    rw [hwrites.isDirectoryAt, hmakes.isDirectoryAt]

end ComponentCompiler.FileTree

namespace ComponentCompiler.Component

open FileTree (Receives MakesDirectory)

variable {t : FileTree} {root p name : Bytes} {options : Options} {fault : BuildFault}

/-! ## Code of a source -/

theorem compileSource_withDefaults (source : Source) (name : Bytes) (options : Options) :
    compileSource source name options.withDefaults = compileSource source name options := by
  unfold compileSource compileDocument
  simp only [withDefaults_withDefaults]

/-- Why a source gives no code: its path gives no name, it cannot be read, or its
content is at fault. -/
inductive NoCode (t : FileTree) (p name : Bytes) (options : Options) : BuildFault → Prop
  | unnamed {fault : BuildFault} (h : nameFor p name = .error fault) : NoCode t p name options fault
  | unreadable {n : Bytes} {fault : PathFault} (hname : nameFor p name = .ok n)
    (h : t.read p = .error fault) :
      NoCode t p name options (.unreadable p fault)
  | invalid {n src : Bytes} {fault : SourceFault} (hname : nameFor p name = .ok n)
    (hread : t.read p = .ok src)
      (h : (compileSource { bytes := src } n options).result = .error fault) :
      NoCode t p name options (.source (fault.withFile p))

/-- The source has the code `code` under the name `n`. -/
structure HasCode (t : FileTree) (p name : Bytes) (options : Options) (n code : Bytes) : Prop where
  name : nameFor p name = .ok n
  source : ∃ src, t.read p = .ok src ∧ (compileSource { bytes := src } n options).result = .ok code

/-- A source gives code or a reason for giving none, and which of the two it is does not depend on
where the code would go. -/
theorem generate_cases (t : FileTree) (root p name : Bytes) (options : Options) :
    (∃ fault, NoCode t p name options fault ∧
        (generate t root p name options.withDefaults).result = .error fault) ∨
      ∃ n code, HasCode t p name options n code ∧
        (generate t root p name options.withDefaults).result =
          .ok ⟨code, outputPath root p n options⟩ := by
  unfold generate
  -- the defaults are filled in again by each stage, which changes nothing
  simp only [compileSource_withDefaults, outputPath_withDefaults]
  cases hname : nameFor p name with
  | error fault => exact .inl ⟨fault, .unnamed hname, rfl⟩
  | ok n =>
      cases hread : t.read p with
      | error fault => exact .inl ⟨_, .unreadable hname hread, rfl⟩
      | ok src =>
          simp only [Report.result_bind, Report.result_ofExcept, Except.mapError, Except.bind,
            Report.mapError]
          cases hcode : (compileSource { bytes := src } n options).result with
          | error fault => exact .inl ⟨_, .invalid hname hread hcode, rfl⟩
          | ok code => exact .inr ⟨n, code, ⟨hname, src, hread, hcode⟩, rfl⟩

theorem NoCode.unique {fault' : BuildFault} (h : NoCode t p name options fault)
    (h' : NoCode t p name options fault') : fault = fault' := by
  cases h <;> cases h' <;> simp_all

/-! ## Writing the code -/

/-- What becomes of building a file: there is no code, or its code cannot be written, or it is
written. -/
inductive FileBuilt (t : FileTree) (root p name : Bytes) (options : Options) :
    FileTree → Except BuildFault Bytes → Prop
  | noCode {fault : BuildFault} (h : NoCode t p name options fault) :
      FileBuilt t root p name options t (.error fault)
  | noDirectory {n code : Bytes} {fault : PathFault} (hcode : HasCode t p name options n code) :
      FileBuilt t root p name options t (.error (.outputDirectory fault))
  | noFile {t' : FileTree} {n code : Bytes} {fault : PathFault}
    (hcode : HasCode t p name options n code)
      (h : MakesDirectory t (t.locate (Path.dir (outputPath root p n options))) t') :
      FileBuilt t root p name options t' (.error (.outputFile (outputPath root p n options) fault))
  | written {t' : FileTree} {n code : Bytes} (hcode : HasCode t p name options n code)
      (h : Receives t (outputPath root p n options) code t') :
      FileBuilt t root p name options t' (.ok (outputPath root p n options))

theorem FileBuilt.eq_of_not_hasCode {after : FileTree} {result : Except BuildFault Bytes}
    (h : FileBuilt t root p name options after result)
    (hno : ∀ n code, ¬HasCode t p name options n code) :
    after = t ∧ ∃ fault, result = .error fault := by
  cases h with
  | noCode _ => exact ⟨rfl, _, rfl⟩
  | noDirectory hcode => exact absurd hcode (hno _ _)
  | noFile hcode _ => exact absurd hcode (hno _ _)
  | written hcode _ => exact absurd hcode (hno _ _)

theorem fileBuilt_compileFileInRoot (ht : t.Rooted) (root p name : Bytes) (options : Options) :
    FileBuilt t root p name options (compileFileInRoot t root p name options).1
      (compileFileInRoot t root p name options).2.result := by
  unfold compileFileInRoot
  dsimp only
  rcases generate_cases t root p name options with ⟨fault, hno, hresult⟩ | ⟨n, code, hcode, hresult⟩
  · rw [hresult]
    exact .noCode hno
  · rw [hresult]
    dsimp only [writeGenerated]
    cases hmake : t.makeDirectories (Path.dir (outputPath root p n options)) with
    | error fault => exact .noDirectory hcode
    | ok t' =>
        have hmakes := ht.makesDirectory (Path.clean_clean _) hmake
        dsimp only
        cases hwrite : t'.write (outputPath root p n options) code with
        | error fault => exact .noFile hcode hmakes
        | ok t'' =>
            exact .written hcode (hmakes.receives ht (clean_outputPath root p n options) hwrite)

theorem NoCode.not_hasCode {n code : Bytes} (h : NoCode t p name options fault) :
    ¬ HasCode t p name options n code := by
  rintro ⟨hname, src, hread, hcode⟩
  cases h <;> simp_all

/-- A file that gives no code leaves the tree untouched, and one that is built changes a single
file. A build that fails otherwise had the code and could not write it: either nothing has changed,
or only the directories of the output are there. -/
theorem compileFileInRoot_frame (ht : t.Rooted) (root p name : Bytes) (options : Options) :
    let after := (compileFileInRoot t root p name options).1
    let result := (compileFileInRoot t root p name options).2.result
    (∀ fault, NoCode t p name options fault → after = t ∧ result = .error fault) ∧
    (∀ output, result = .ok output → ∃ n code, HasCode t p name options n code ∧
      output = outputPath root p n options ∧ Receives t output code after) ∧
    (∀ fault, result = .error fault →
      (NoCode t p name options fault ∨ ∃ cause, fault = .outputDirectory cause) ∧ after = t ∨
        ∃ output cause, fault = .outputFile output cause ∧
          MakesDirectory t (t.locate (Path.dir output)) after) := by
  dsimp only
  have hbuilt := fileBuilt_compileFileInRoot ht root p name options
  generalize (compileFileInRoot t root p name options).1 = after at hbuilt ⊢
  generalize (compileFileInRoot t root p name options).2.result = result at hbuilt ⊢
  cases hbuilt with
  | noCode h =>
      refine ⟨fun fault h' => ⟨rfl, by rw [h.unique h']⟩, nofun,
        fun fault hfault => .inl ⟨.inl ?_, rfl⟩⟩
      cases hfault
      exact h
  | noDirectory hcode =>
      refine ⟨fun fault h => absurd hcode h.not_hasCode, nofun,
        fun fault hfault => .inl ⟨.inr ?_, rfl⟩⟩
      cases hfault
      exact ⟨_, rfl⟩
  | noFile hcode h =>
      refine ⟨fun fault h => absurd hcode h.not_hasCode, nofun, fun fault hfault => .inr ?_⟩
      cases hfault
      exact ⟨_, _, rfl, h⟩
  | written hcode h =>
      refine ⟨fun fault h => absurd hcode h.not_hasCode, fun output houtput => ?_, nofun⟩
      cases houtput
      exact ⟨_, _, hcode, rfl, h⟩

/-- Two sources, of which one has no template. -/
def partialTree : FileTree where
  root := .directory [(Bytes.lit "w", .directory [
    (Bytes.lit "Bare.vc", .file (Bytes.lit "<script></script>")),
    (Bytes.lit "Counter.vc", .file (Bytes.lit "<template counter></template>"))])]
  workingDirectory := [Bytes.lit "w"]

theorem rooted_partialTree : partialTree.Rooted := ⟨by decide, by decide⟩

set_option maxRecDepth 100000 in
theorem compileFileInRoot_frame_partialTree :
    (compileFileInRoot partialTree (Bytes.lit ".") (Bytes.lit "Bare.vc") []
      { outDir := Bytes.lit "dist/js" }).1 = partialTree ∧
    ∃ code, HasCode partialTree (Bytes.lit "Counter.vc") [] { outDir := Bytes.lit "dist/js" }
        (Bytes.lit "Counter") code ∧
      Receives partialTree (Bytes.lit "dist/js/Counter.js") code
        (compileFileInRoot partialTree (Bytes.lit ".") (Bytes.lit "Counter.vc") []
          { outDir := Bytes.lit "dist/js" }).1 := by
  constructor
  · have hbare : (compileSource { bytes := Bytes.lit "<script></script>" } (Bytes.lit "Bare")
        { outDir := Bytes.lit "dist/js" }).result.toOption = none := by
      decide +kernel
    obtain ⟨hnoCode, _⟩ :=
      compileFileInRoot_frame rooted_partialTree (Bytes.lit ".") (Bytes.lit "Bare.vc") []
      { outDir := Bytes.lit "dist/js" }
    cases hcode : (compileSource { bytes := Bytes.lit "<script></script>" } (Bytes.lit "Bare")
        { outDir := Bytes.lit "dist/js" }).result with
    | error fault => exact (hnoCode _ (.invalid (by decide +kernel) (by decide +kernel) hcode)).1
    | ok code => exact absurd (hcode ▸ hbare) nofun
  · have hresult : (compileFileInRoot partialTree (Bytes.lit ".") (Bytes.lit "Counter.vc") []
        { outDir := Bytes.lit "dist/js" }).2.result = .ok (Bytes.lit "dist/js/Counter.js") := by
      decide +kernel
    have hname : nameFor (Bytes.lit "Counter.vc") [] = .ok (Bytes.lit "Counter") := by
      decide +kernel
    obtain ⟨_, hok, _⟩ :=
      compileFileInRoot_frame rooted_partialTree (Bytes.lit ".") (Bytes.lit "Counter.vc") []
      { outDir := Bytes.lit "dist/js" }
    obtain ⟨n, code, hcode, _, hreceives⟩ := hok _ hresult
    obtain rfl : Bytes.lit "Counter" = n := Except.ok.inj (hname.symm.trans hcode.name)
    exact ⟨code, hcode, hreceives⟩

end ComponentCompiler.Component
