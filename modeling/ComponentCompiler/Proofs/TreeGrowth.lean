import ComponentCompiler.Proofs.ByteOrder
import ComponentCompiler.Proofs.Schedule
import ComponentCompiler.Session.Job
import Mathlib

/-!
# File trees only grow

Building only makes directories and writes files, so every directory stays a directory and every
file a file, whether the build succeeds or fails. Directories keep their entries in byte order of
the names, which is what lets a later search of the tree find each file once.
-/

namespace ComponentCompiler.Entry

open ComponentCompiler.Path (IsProper)

/-! ## Entries in order -/

/-- The names in every directory are proper and stand in strictly ascending byte order. -/
inductive Ordered : Entry → Prop
  | file (content : Bytes) : Ordered (file content)
  | directory {es : List (Bytes × Entry)} (hproper : ∀ x ∈ es, IsProper x.1)
      (hsorted : es.Pairwise fun x y => Bytes.lt x.1 y.1) (hes : ∀ x ∈ es, Ordered x.2) :
      Ordered (directory es)

theorem Ordered.wellNamed {e : Entry} (h : e.Ordered) : e.WellNamed := by
  induction h with
  | file content => exact .file content
  | @directory es hproper hsorted _ ih =>
      refine .directory hproper (List.pairwise_map.mpr (hsorted.imp ?_)) ih
      intro x y hlt heq
      rw [heq] at hlt
      exact Bytes.not_lt_self y.1 hlt

theorem Ordered.get? {e x : Entry} (he : e.Ordered) {cs : List Bytes} (h : e.get? cs = some x) :
    x.Ordered :=
  of_get? (fun _ hes => by cases hes; assumption) he h

theorem mem_of_mem_putNamed {name : Bytes} {e : Entry} {es : List (Bytes × Entry)}
    {x : Bytes × Entry} (h : x ∈ putNamed name e es) :
    x = (name, e) ∨ x ∈ es := by
  induction es with
  | nil => exact .inl (List.mem_singleton.mp h)
  | cons y es ih =>
      obtain ⟨n, y⟩ := y
      rw [putNamed] at h
      split at h
      · rcases List.mem_cons.mp h with h | h
        · exact .inl h
        · exact .inr (List.mem_cons_of_mem _ h)
      · split at h
        · exact List.mem_cons.mp h
        · rcases List.mem_cons.mp h with h | h
          · exact .inr (List.mem_cons.mpr (.inl h))
          · exact (ih h).imp_right (List.mem_cons_of_mem _)

theorem pairwise_putNamed (name : Bytes) (e : Entry) {es : List (Bytes × Entry)}
    (h : es.Pairwise fun x y => Bytes.lt x.1 y.1) :
    (putNamed name e es).Pairwise fun x y => Bytes.lt x.1 y.1 := by
  induction es with
  | nil => exact List.pairwise_singleton _ _
  | cons y es ih =>
      obtain ⟨n, y⟩ := y
      obtain ⟨hfirst, hrest⟩ := List.pairwise_cons.mp h
      rw [putNamed]
      split
      · rename_i hn
        subst hn
        exact List.pairwise_cons.mpr ⟨hfirst, hrest⟩
      · rename_i hn
        split
        · rename_i hlt
          refine List.pairwise_cons.mpr ⟨List.forall_mem_cons.mpr ⟨hlt, ?_⟩, h⟩
          intro x hx
          exact Bytes.lt_trans hlt (hfirst x hx)
        · rename_i hlt
          refine List.pairwise_cons.mpr ⟨?_, ih hrest⟩
          intro x hx
          rcases mem_of_mem_putNamed hx with rfl | hx
          · exact Bytes.lt_of_not_lt hn hlt
          · exact hfirst x hx

theorem Ordered.put {new : Entry} (hnew : new.Ordered) {cs : List Bytes}
    (hcs : ∀ c ∈ cs, IsProper c) {e : Entry} (he : e.Ordered) :
    (Entry.put new cs e).Ordered := by
  induction cs generalizing e with
  | nil => exact hnew
  | cons c cs ih =>
      obtain ⟨hc, hrest⟩ := List.forall_mem_cons.mp hcs
      cases he with
      | file content => exact .file content
      | @directory es hproper hsorted hes =>
          have hnext : ((es.lookup c).getD (.directory [])).Ordered := by
            cases hlookup : es.lookup c with
            | none => exact .directory (by simp) .nil (by simp)
            | some x => exact hes _ (mem_of_lookup_eq hlookup)
          have hput := ih hrest hnext
          refine .directory ?_ (pairwise_putNamed c _ hsorted) ?_
          · intro x hx
            rcases mem_of_mem_putNamed hx with rfl | hx
            · exact hc
            · exact hproper x hx
          · intro x hx
            rcases mem_of_mem_putNamed hx with rfl | hx
            · exact hput
            · exact hes x hx

theorem isSome_get?_iff {e : Entry} {cs : List Bytes} :
    (e.get? cs).isSome ↔ e.isDirectoryAt cs ∨ (e.fileAt? cs).isSome := by
  unfold isDirectoryAt fileAt?
  cases e.get? cs with
  | none => simp
  | some x => cases x <;> simp [isDirectory, content?]

theorem isSome_lookup {e : Entry} {cs : List Bytes} {es : List (Bytes × Entry)}
    (h : e.get? cs = some (.directory es)) (c : Bytes) :
    (es.lookup c).isSome = (e.get? (cs ++ [c])).isSome := by
  rw [get?_append, h, Option.bind_some, get?]
  cases es.lookup c <;> simp [get?]

end ComponentCompiler.Entry

namespace ComponentCompiler.FileTree

/-- A tree whose working directory is there, with the entries of all directories in order. -/
structure Ordered (t : FileTree) : Prop where
  rooted : t.Rooted
  entries : t.root.Ordered

variable {t t' t'' : FileTree} {p content : Bytes}

theorem Ordered.wellFormed (ht : t.Ordered) : t.WellFormed := ⟨ht.rooted, ht.entries.wellNamed⟩

theorem Ordered.put (ht : t.Ordered) {e : Entry} (he : e.Ordered) (p : Bytes) :
    (t.put p e).root.Ordered :=
  he.put (ht.rooted.absolute_eq p).2.isProper ht.entries

/-! ## Growing -/

/-- `t'` has the directories and files of `t`, where files may have other contents. -/
structure Grows (t t' : FileTree) : Prop where
  ordered : t'.Ordered
  workingDirectory : t'.workingDirectory = t.workingDirectory
  directories : ∀ cs, t.root.isDirectoryAt cs → t'.root.isDirectoryAt cs
  files : ∀ cs, (t.root.fileAt? cs).isSome → (t'.root.fileAt? cs).isSome

theorem Grows.refl (ht : t.Ordered) : Grows t t := ⟨ht, rfl, fun _ h => h, fun _ h => h⟩

theorem Grows.trans (h : Grows t t') (h' : Grows t' t'') : Grows t t'' where
  ordered := h'.ordered
  workingDirectory := h'.workingDirectory.trans h.workingDirectory
  directories := fun cs hcs => h'.directories cs (h.directories cs hcs)
  files := fun cs hcs => h'.files cs (h.files cs hcs)

theorem Grows.cwd_eq (h : Grows t t') : t'.cwd = t.cwd := by
  rw [cwd, cwd, h.workingDirectory]

theorem Grows.locate_eq (h : Grows t t') (p : Bytes) : t'.locate p = t.locate p := by
  rw [locate, locate, h.cwd_eq]

theorem Grows.isSome_get? (h : Grows t t') {cs : List Bytes} (hcs : (t.root.get? cs).isSome) :
    (t'.root.get? cs).isSome := by
  rw [Entry.isSome_get?_iff] at hcs ⊢
  exact hcs.imp (h.directories cs) (h.files cs)

theorem Grows.follow_eq_ok (h : Grows t t') {here cs there : List Bytes}
    (hfollow : follow t.root here cs = .ok there) : follow t'.root here cs = .ok there := by
  induction cs generalizing here with
  | nil => exact hfollow
  | cons c cs ih =>
      rw [follow] at hfollow ⊢
      split at hfollow
      · rename_i es hes
        obtain ⟨es', hes'⟩ := Entry.get?_eq_directory
          (h.directories here.reverse (by rw [Entry.isDirectoryAt, hes]; rfl))
        have hlookup : (es.lookup c).isSome → (es'.lookup c).isSome := by
          rw [Entry.isSome_lookup hes, Entry.isSome_lookup hes']
          exact h.isSome_get?
        rw [hes']
        dsimp only
        -- the ways to go on are the same in both trees, but for the lookup of a name
        split_ifs at hfollow with hskip hup hc
        · rw [if_pos hskip]
          exact ih hfollow
        · rw [if_neg hskip, if_pos hup]
          exact ih hfollow
        · rw [if_neg hskip, if_neg hup, if_pos (hlookup hc)]
          exact ih hfollow
      · cases hfollow
      · cases hfollow

theorem isPresent_iff : t.isPresent p ↔ ∃ cs, t.resolve p = .ok cs ∧ (t.root.get? cs).isSome := by
  unfold isPresent entry
  cases t.resolve p with
  | error fault => simp [Except.bind, Except.toOption]
  | ok cs => cases hget : t.root.get? cs <;> simp [Except.bind, Except.toOption, hget]

/-- What is there stays there. -/
theorem Grows.isPresent (h : Grows t t') (hp : t.isPresent p) : t'.isPresent p := by
  obtain ⟨cs, hresolve, hcs⟩ := isPresent_iff.mp hp
  refine isPresent_iff.mpr ⟨cs, ?_, h.isSome_get? hcs⟩
  unfold resolve at hresolve ⊢
  split at hresolve
  · cases hresolve
  · rw [if_neg ‹_›, h.workingDirectory]
    cases hfollow : follow t.root (if Path.isAbsolute p then [] else t.workingDirectory.reverse)
        (p.splitOn Ascii.slash) with
    | error fault => simp [hfollow, Except.map] at hresolve
    | ok there => rwa [h.follow_eq_ok hfollow, ← hfollow]

theorem grows_makeDirectories (ht : t.Ordered) (hp : Path.clean p = p)
    (h : t.makeDirectories p = .ok t') :
    Grows t t' := by
  have hmakes := ht.rooted.makesDirectory hp h
  have hentries : t'.root.Ordered := by
    unfold makeDirectories at h
    split at h
    · cases h
    · injection h with h
      subst h
      split
      · exact ht.entries
      · exact ht.put (.directory (by simp) .nil (by simp)) p
  refine ⟨⟨hmakes.rooted ht.rooted, hentries⟩, hmakes.workingDirectory, ?_, ?_⟩
  · intro cs hcs
    exact (hmakes.isDirectoryAt cs).mpr (.inl hcs)
  · intro cs hcs
    rwa [hmakes.fileAt? cs]

theorem grows_write (ht : t.Ordered) (hp : Path.clean p = p)
    (hdir : t.root.isDirectoryAt (t.locate (Path.dir p))) (h : t.write p content = .ok t') :
    Grows t t' := by
  have hwrites := ht.rooted.writes hp hdir h
  have hentries : t'.root.Ordered := by
    unfold write at h
    split at h
    · cases h
    · injection h with h
      subst h
      exact ht.put (.file content) p
  refine ⟨⟨hwrites.rooted ht.rooted, hentries⟩, hwrites.workingDirectory, ?_, ?_⟩
  · intro cs hcs
    exact (hwrites.isDirectoryAt cs).mpr hcs
  · intro cs hcs
    rw [hwrites.fileAt? cs]
    split
    · rfl
    · exact hcs

end ComponentCompiler.FileTree

namespace ComponentCompiler.Component

open FileTree (Grows)

variable {t : FileTree} {root p name : Bytes} {options : Options}

/-! ## Builds -/

/-- What is generated goes to the output path for the name that is used. -/
theorem output_of_generate {g : Generated} (h : (generate t root p name options).result = .ok g) :
    ∃ n, nameFor p name = .ok n ∧ g.output = outputPath root p n options := by
  obtain ⟨n, hname, h⟩ := Report.bind_eq_ok.mp h
  obtain ⟨src, _, h⟩ := Report.bind_eq_ok.mp h
  obtain ⟨code, _, h⟩ := Report.bind_eq_ok.mp h
  injection h with h
  subst h
  exact ⟨n, hname, rfl⟩

theorem grows_writeGenerated (ht : t.Ordered) {g : Generated}
    (hg : Path.clean g.output = g.output) :
    Grows t (writeGenerated t g).1 := by
  unfold writeGenerated
  cases hmake : t.makeDirectories (Path.dir g.output) with
  | error fault => exact .refl ht
  | ok t' =>
      have hmade := FileTree.grows_makeDirectories ht (Path.clean_clean _) hmake
      have hdir : t'.root.isDirectoryAt (t'.locate (Path.dir g.output)) := by
        have hmakes := ht.rooted.makesDirectory (Path.clean_clean _) hmake
        rw [hmade.locate_eq, hmakes.isDirectoryAt]
        exact .inr (List.prefix_refl _)
      dsimp only
      cases hwrite : t'.write g.output g.code with
      | error fault => exact hmade
      | ok t'' => exact hmade.trans (FileTree.grows_write hmade.ordered hg hdir hwrite)

theorem grows_compileFileInRoot (ht : t.Ordered) (root p name : Bytes) (options : Options) :
    Grows t (compileFileInRoot t root p name options).1 := by
  unfold compileFileInRoot
  dsimp only
  cases hgenerate : (generate t root p name options.withDefaults).result with
  | error fault => exact .refl ht
  | ok g =>
      obtain ⟨n, _, houtput⟩ := output_of_generate hgenerate
      have hgrows := grows_writeGenerated ht (g := g) (by rw [houtput, clean_outputPath])
      dsimp only
      generalize writeGenerated t g = written at hgrows ⊢
      obtain ⟨t', _ | _⟩ := written <;> exact hgrows

theorem grows_compileInOrder (ht : t.Ordered) (root : Bytes) (options : Options)
    (sources : List Bytes) :
    Grows t (compileInOrder root options t sources).1 := by
  induction sources generalizing t with
  | nil => exact .refl ht
  | cons p sources ih =>
      have hfirst := grows_compileFileInRoot ht root p [] options
      cases hresult : (compileFileInRoot t root p [] options).2.result with
      | error fault =>
          rw [compileInOrder]
          simp only [hresult]
          exact hfirst
      | ok output =>
          rw [compileInOrder]
          simp only [hresult]
          exact hfirst.trans (ih hfirst.ordered)

theorem grows_compileDirectory (ht : t.Ordered) (root : Bytes) (options : Options)
    (canceled : Bool) :
    Grows t (compileDirectory t root options canceled).1 := by
  unfold compileDirectory
  dsimp only
  split
  · exact .refl ht
  · split
    · exact .refl ht
    · exact grows_compileInOrder ht _ _ _

end ComponentCompiler.Component

namespace ComponentCompiler.Job

open FileTree (Grows)
open Component (BuildFault Report)

variable {s : Session}

theorem exists_report_eq (s : Session) (fault : BuildFault) :
    ∃ text, (report s fault).1 = s.printError text := by
  unfold report
  split
  · exact ⟨[], s.printError_nil.symm⟩
  · dsimp only
    split
    · exact ⟨_, rfl⟩
    · split
      · exact ⟨_, s.printError_printError _ _⟩
      · exact ⟨_, rfl⟩

/-- A build changes the files as it says, and is reported on the error output only. -/
theorem exists_settle_eq {α : Type} (j : Job) (s : Session)
    (built : FileTree × Report BuildFault α) :
    ∃ text, (j.settle s built).1 = (s.withTree built.1).printError text := by
  unfold settle
  dsimp only
  split
  · exact ⟨_, rfl⟩
  · obtain ⟨text, htext⟩ :=
      exists_report_eq ((s.withTree built.1).printError (j.options.log built.2.notices)) _
    exact ⟨_, htext.trans (Session.printError_printError _ _ _)⟩

theorem tree_settle {α : Type} (j : Job) (s : Session) (built : FileTree × Report BuildFault α) :
    (j.settle s built).1.tree = built.1 := by
  obtain ⟨text, htext⟩ := j.exists_settle_eq s built
  rw [htext]
  rfl

theorem grows_buildPath (j : Job) (hs : s.tree.Ordered) (path : Bytes) (canceled : Bool) :
    Grows s.tree (j.buildPath s path canceled).1.tree := by
  unfold buildPath
  split
  · exact .refl hs
  · dsimp only
    rw [tree_settle]
    exact Component.grows_compileDirectory hs _ _ _
  · dsimp only
    rw [tree_settle]
    exact Component.grows_compileFileInRoot hs _ _ _ _

theorem grows_buildPaths (j : Job) (hs : s.tree.Ordered) (paths : List Bytes) (canceled : Bool) :
    Grows s.tree (j.buildPaths canceled s paths).1.tree := by
  induction paths generalizing s with
  | nil => exact .refl hs
  | cons path paths ih =>
      have hfirst := j.grows_buildPath hs path canceled
      rw [buildPaths]
      generalize j.buildPath s path canceled = built at hfirst ⊢
      obtain ⟨s', fault | n⟩ := built
      · exact hfirst
      · exact hfirst.trans (ih hfirst.ordered)

theorem tree_buildAll (j : Job) (s : Session) (paths : List Bytes) (canceled : Bool) :
    (j.buildAll s paths canceled).1.tree = (j.buildPaths canceled s paths).1.tree := by
  unfold buildAll
  generalize j.buildPaths canceled s paths = built
  obtain ⟨s', fault | n⟩ := built
  · rfl
  · dsimp only
    split <;> rfl

end ComponentCompiler.Job
