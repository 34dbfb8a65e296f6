import ComponentCompiler.Component.Discovery
import ComponentCompiler.Proofs.FileTree
import Mathlib

/-!
# Where discovered sources are

In a tree whose names are proper and differ within each directory, a walk meets the entries below a
directory under the paths that their components spell, each once.
-/

namespace ComponentCompiler.Entry

open ComponentCompiler.Path (IsProper IsClean)

/-- The names in every directory are proper and differ. -/
inductive WellNamed : Entry → Prop
  | file (content : Bytes) : WellNamed (file content)
  | directory {es : List (Bytes × Entry)} (hproper : ∀ x ∈ es, IsProper x.1)
      (hnodup : (es.map (·.1)).Nodup) (hes : ∀ x ∈ es, WellNamed x.2) : WellNamed (directory es)

theorem lookup_eq_of_mem {es : List (Bytes × Entry)} {name : Bytes} {e : Entry}
    (hnodup : (es.map (·.1)).Nodup) (h : (name, e) ∈ es) : es.lookup name = some e := by
  induction es with
  | nil => cases h
  | cons x es ih =>
      obtain ⟨n, x⟩ := x
      rw [List.map_cons, List.nodup_cons] at hnodup
      rw [lookup_cons]
      rcases List.mem_cons.mp h with heq | hmem
      · obtain ⟨rfl, rfl⟩ := Prod.mk.inj heq
        rw [if_pos rfl]
      · have hne : name ≠ n := by
          rintro rfl
          exact hnodup.1 (List.mem_map.mpr ⟨_, hmem, rfl⟩)
        rw [if_neg hne, ih hnodup.2 hmem]

theorem mem_of_lookup_eq {es : List (Bytes × Entry)} {name : Bytes} {e : Entry}
    (h : es.lookup name = some e) : (name, e) ∈ es := by
  obtain ⟨front, back, rfl, -⟩ := List.lookup_eq_some_iff.mp h
  exact List.mem_append_right front List.mem_cons_self

/-- What holds of an entry and passes from a directory to its entries holds of all below. -/
theorem of_get? {P : Entry → Prop} (hP : ∀ es, P (directory es) → ∀ x ∈ es, P x.2) {e x : Entry}
    (he : P e) {cs : List Bytes} (h : e.get? cs = some x) :
    P x := by
  induction cs generalizing e with
  | nil =>
      obtain rfl : e = x := Option.some.inj h
      exact he
  | cons c cs ih =>
      cases e with
      | file content => cases h
      | directory es =>
          rw [Entry.get?] at h
          cases hlookup : es.lookup c with
          | none => simp [hlookup] at h
          | some y =>
              rw [hlookup] at h
              exact ih (hP es he (c, y) (mem_of_lookup_eq hlookup)) h

theorem WellNamed.get? {e x : Entry} (he : e.WellNamed) {cs : List Bytes} (h : e.get? cs = some x) :
    x.WellNamed :=
  of_get? (fun _ hes => by cases hes; assumption) he h

/-! ## Walking -/

variable {absolute : Bool}

theorem walk_eq_flatMap (enter : Bytes → Bool) (dir : Bytes) (es : List (Bytes × Entry)) :
    walk enter dir es = es.flatMap (visit enter dir) := by
  induction es with
  | nil => rfl
  | cons x es ih => rw [walk, ih, List.flatMap_cons]

/-- An entry is visited at the path of its components behind `cs`, and all directories that lead to
it are entered. -/
def IsBelow (absolute : Bool) (enter : Bytes → Bool) (cs : List Bytes) (e : Entry) (v : Visit) :
    Prop :=
  ∃ ds, v.path = Path.ofComponents absolute (cs ++ (ds ++ [v.name])) ∧
    e.get? (ds ++ [v.name]) = some v.entry ∧
    (∀ d ∈ ds, IsProper d ∧ enter d) ∧ IsProper v.name

theorem IsBelow.exists_path {enter : Bytes → Bool} {cs : List Bytes} (hcs : IsClean absolute cs)
    {e : Entry} {v : Visit} (h : IsBelow absolute enter cs e v) :
    ∃ d ds, v.path = Path.ofComponents absolute (cs ++ d :: ds) ∧
      IsClean absolute (cs ++ d :: ds) := by
  obtain ⟨ds, hpath, _, hds, hlast⟩ := h
  have hall : IsClean absolute (cs ++ (ds ++ [v.name])) := by
    apply hcs.append
    intro d hd
    rcases List.mem_append.mp hd with hd | hd
    · exact (hds d hd).1
    · rwa [List.mem_singleton.mp hd]
  cases ds with
  | nil => exact ⟨v.name, [], hpath, hall⟩
  | cons d ds => exact ⟨d, ds ++ [v.name], hpath, hall⟩

theorem mem_visit {enter : Bytes → Bool} {dir name : Bytes} {e : Entry} {v : Visit}
    (h : v ∈ visit enter dir (name, e)) :
    v = ⟨Path.join [dir, name], name, e⟩ ∨
      (enter name ∧ v ∈ descendants enter (Path.join [dir, name]) e) := by
  rw [visit] at h
  split at h
  · cases h
  · rename_i hskip
    rcases List.mem_cons.mp h with heq | hmem
    · exact .inl heq
    · refine .inr ⟨?_, hmem⟩
      cases e with
      | file content => cases hmem
      | directory es => simpa [isDirectory] using hskip

theorem WellNamed.isBelow {enter : Bytes → Bool} {e : Entry} (he : e.WellNamed) {cs : List Bytes}
    (hcs : IsClean absolute cs) {v : Visit}
    (h : v ∈ descendants enter (Path.ofComponents absolute cs) e) :
    IsBelow absolute enter cs e v := by
  induction he generalizing cs with
  | file content => cases h
  | @directory es hproper hnodup hes ih =>
      rw [descendants, walk_eq_flatMap] at h
      obtain ⟨⟨name, x⟩, hx, hv⟩ := List.mem_flatMap.mp h
      have hname : IsProper name := hproper _ hx
      have hlookup := lookup_eq_of_mem hnodup hx
      rcases mem_visit hv with rfl | ⟨henter, hv⟩
      · refine ⟨[], Path.join_ofComponents hcs hname, ?_, by simp, hname⟩
        simp [Entry.get?, hlookup]
      · rw [Path.join_ofComponents hcs hname] at hv
        obtain ⟨ds, hpath, hget, hds, hlast⟩ := ih _ hx (hcs.append (by simpa using hname)) hv
        refine ⟨name :: ds, ?_, ?_, ?_, hlast⟩
        · rw [hpath, List.append_assoc, List.singleton_append, List.cons_append]
        · rw [List.cons_append, Entry.get?, hlookup]
          exact hget
        · intro d hd
          rcases List.mem_cons.mp hd with rfl | hd
          · exact ⟨hname, henter⟩
          · exact hds d hd

/-- A directory that is visited is entered. -/
theorem WellNamed.enter_of_mem_descendants {enter : Bytes → Bool} {e : Entry} (he : e.WellNamed)
    {dir : Bytes} {v : Visit} (h : v ∈ descendants enter dir e) (hdir : v.entry.isDirectory) :
    enter v.name := by
  induction he generalizing dir with
  | file content => cases h
  | @directory es hproper hnodup hes ih =>
      rw [descendants, walk_eq_flatMap] at h
      obtain ⟨⟨name, x⟩, hx, hv⟩ := List.mem_flatMap.mp h
      rw [visit] at hv
      split at hv
      · cases hv
      · rename_i hskip
        rcases List.mem_cons.mp hv with rfl | hv
        · simpa [show x.isDirectory = true from hdir] using hskip
        · exact ih _ hx hv

/-- What is reached through directories that are entered is visited. -/
theorem mem_descendants_of_get? {enter : Bytes → Bool} {e x : Entry} {cs ds : List Bytes}
    {name : Bytes} (hcs : IsClean absolute cs) (hds : ∀ d ∈ ds, IsProper d ∧ enter d)
    (hname : IsProper name) (hx : x.isDirectory → enter name) (h : e.get? (ds ++ [name]) = some x) :
    ⟨Path.ofComponents absolute (cs ++ (ds ++ [name])), name, x⟩ ∈
      descendants enter (Path.ofComponents absolute cs) e := by
  induction ds generalizing e cs with
  | nil =>
      cases e with
      | file content => cases h
      | directory es =>
          have hlookup : es.lookup name = some x := by
            rw [List.nil_append, get?] at h
            cases hlookup : es.lookup name with
            | none => simp [hlookup] at h
            | some y => simpa [hlookup, get?] using h
          rw [descendants, walk_eq_flatMap]
          apply List.mem_flatMap.mpr
          refine ⟨(name, x), mem_of_lookup_eq hlookup, ?_⟩
          have hvisit : ¬(x.isDirectory && !enter name) := by simpa using hx
          rw [visit, if_neg hvisit, Path.join_ofComponents hcs hname]
          exact List.mem_cons_self
  | cons d ds ih =>
      obtain ⟨⟨hd, henter⟩, hrest⟩ := List.forall_mem_cons.mp hds
      cases e with
      | file content => cases h
      | directory es =>
          rw [List.cons_append, get?] at h
          cases hlookup : es.lookup d with
          | none => simp [hlookup] at h
          | some y =>
              rw [hlookup] at h
              have hnext : IsClean absolute (cs ++ [d]) := hcs.append (by simpa using hd)
              have hbelow := ih hnext hrest h
              rw [descendants, walk_eq_flatMap]
              apply List.mem_flatMap.mpr
              refine ⟨(d, y), mem_of_lookup_eq hlookup, ?_⟩
              rw [visit, if_neg (by simp [henter]), Path.join_ofComponents hcs hd]
              rw [List.append_assoc, List.singleton_append] at hbelow
              exact List.mem_cons_of_mem _ hbelow

/-- What is visited under a name lies behind that name. -/
theorem WellNamed.exists_path_of_mem_visit {enter : Bytes → Bool} {name : Bytes} {e : Entry}
    (he : e.WellNamed) {cs : List Bytes} (hcs : IsClean absolute cs) (hname : IsProper name)
    {v : Visit} (h : v ∈ visit enter (Path.ofComponents absolute cs) (name, e)) :
    ∃ ds, v.path = Path.ofComponents absolute (cs ++ name :: ds) ∧
      IsClean absolute (cs ++ name :: ds) := by
  have hnext : IsClean absolute (cs ++ [name]) := hcs.append (by simpa using hname)
  rcases mem_visit h with rfl | ⟨_, hv⟩
  · exact ⟨[], Path.join_ofComponents hcs hname, hnext⟩
  · rw [Path.join_ofComponents hcs hname] at hv
    obtain ⟨d, ds, hpath, hclean⟩ := (he.isBelow hnext hv).exists_path hnext
    rw [List.append_assoc, List.singleton_append] at hpath hclean
    exact ⟨d :: ds, hpath, hclean⟩

theorem WellNamed.nodup_descendants {enter : Bytes → Bool} {e : Entry} (he : e.WellNamed)
    {cs : List Bytes} (hcs : IsClean absolute cs) :
    ((descendants enter (Path.ofComponents absolute cs) e).map (·.path)).Nodup := by
  induction he generalizing cs with
  | file content => exact List.nodup_nil
  | @directory es hproper hnodup hes ih =>
      rw [descendants, walk_eq_flatMap, List.map_flatMap, List.nodup_flatMap]
      constructor
      · rintro ⟨name, x⟩ hx
        have hname : IsProper name := hproper _ hx
        have hnext : IsClean absolute (cs ++ [name]) := hcs.append (by simpa using hname)
        rw [visit]
        split
        · exact List.nodup_nil
        · rw [Path.join_ofComponents hcs hname, List.map_cons, List.nodup_cons]
          refine ⟨?_, ih _ hx hnext⟩
          intro hmem
          obtain ⟨v, hv, hpath⟩ := List.mem_map.mp hmem
          obtain ⟨d, ds, hbelow, hclean⟩ := ((hes _ hx).isBelow hnext hv).exists_path hnext
          have heq := Path.ofComponents_inj hclean hnext (hbelow.symm.trans hpath)
          simp at heq
      · -- the paths of two entries differ in the component behind `cs`
        refine (List.pairwise_map.mp hnodup).imp_of_mem ?_
        rintro ⟨name, x⟩ ⟨name', x'⟩ hx hx' hne p hp hp'
        obtain ⟨v, hv, rfl⟩ := List.mem_map.mp hp
        obtain ⟨v', hv', hpath⟩ := List.mem_map.mp hp'
        obtain ⟨ds, hds, hclean⟩ := (hes _ hx).exists_path_of_mem_visit hcs (hproper _ hx) hv
        obtain ⟨ds', hds', hclean'⟩ := (hes _ hx').exists_path_of_mem_visit hcs (hproper _ hx') hv'
        have heq := Path.ofComponents_inj hclean' hclean (hds'.symm.trans (hpath.trans hds))
        exact hne (List.cons.inj (List.append_cancel_left heq)).1.symm

end ComponentCompiler.Entry

namespace ComponentCompiler.FileTree

open ComponentCompiler.Path (IsProper IsClean)

variable {t : FileTree}

/-- A tree as a file system holds it: names are proper and differ within a directory, and the
working directory is there. -/
structure WellFormed (t : FileTree) : Prop where
  rooted : t.Rooted
  wellNamed : t.root.WellNamed

theorem Rooted.absolute_eq (ht : t.Rooted) (p : Bytes) :
    Path.absolute t.cwd p = Path.ofComponents true (t.locate p) ∧ IsClean true (t.locate p) := by
  have hcwd : IsClean true t.workingDirectory := Path.isClean_of_isProper ht.proper
  have hclean : ∀ x, Path.isAbsolute x = true → Path.absolute t.cwd p = Path.clean x →
      Path.absolute t.cwd p = Path.ofComponents true (t.locate p) ∧ IsClean true (t.locate p) := by
    intro x hx habsolute
    rw [locate, habsolute, Path.cleanComponents_clean, Path.clean, hx]
    exact ⟨rfl, hx ▸ Path.isClean_cleanComponents x⟩
  by_cases hp : Path.isAbsolute p = true
  · exact hclean p hp (if_pos hp)
  · have hne : t.cwd ≠ [] := Path.ofComponents_ne_nil fun _ hc => hcwd.eq_dotDot_or_isProper hc
    refine hclean (t.cwd ++ Ascii.slash :: p) ?_ ?_
    · rw [Path.isAbsolute_append hne]
      rfl
    · rw [Path.absolute, if_neg hp, Path.join_pair hne]

theorem Rooted.locate_of_isClean (ht : t.Rooted) {cs : List Bytes} (h : IsClean true cs) :
    t.locate (Path.ofComponents true cs) = cs := by
  have hnames : IsClean true (List.replicate 0 Path.dotDot ++ cs) := h
  have hlocate := ht.locate_ofComponents hnames h.isProper
  rwa [origin, if_pos rfl, List.drop_nil, List.reverse_nil, List.replicate_zero,
    List.nil_append] at hlocate

end ComponentCompiler.FileTree

namespace ComponentCompiler.Component

open ComponentCompiler.Path (IsProper IsClean)

variable {t : FileTree} {rs : List Bytes} {ext p : Bytes} {sources : List Bytes}

/-- A source at the components `rs ++ ds` with the file name `name`, reached through directories
that are not skipped. -/
structure SourceAt (t : FileTree) (rs ds : List Bytes) (name p : Bytes) : Prop where
  path_eq : p = Path.ofComponents true (rs ++ ds ++ [name])
  clean : IsClean true (rs ++ ds ++ [name])
  entered : ∀ d ∈ ds, isSkipped d = false
  isFile : ∃ content, t.root.fileAt? (rs ++ ds ++ [name]) = some content

theorem discover_of_get? (ht : t.Rooted) (hrs : IsClean true rs) {es : List (Bytes × Entry)}
    (h : t.root.get? rs = some (.directory es)) (ext : Bytes) :
    discover t (Path.ofComponents true rs) ext =
      .ok (((Entry.descendants (fun name => !isSkipped name) (Path.ofComponents true rs)
        (.directory es)).filter (isSource ext)).map (·.path)) := by
  have hentry := ht.toOption_entry (Path.clean_ofComponents hrs)
  rw [ht.locate_of_isClean hrs, h] at hentry
  unfold discover FileTree.stat
  cases hroot : t.entry (Path.ofComponents true rs) with
  | error fault => simp [hroot, Except.toOption] at hentry
  | ok e =>
      obtain rfl : e = .directory es := by simpa [hroot, Except.toOption] using hentry
      rfl

theorem discover_of_isDirectoryAt (ht : t.WellFormed) (hrs : IsClean true rs)
    (hdir : t.root.isDirectoryAt rs)
    (h : discover t (Path.ofComponents true rs) ext = .ok sources) :
    sources.Nodup ∧ ∀ p ∈ sources, ∃ ds name, SourceAt t rs ds name p ∧ name.endsWith ext := by
  obtain ⟨es, hes⟩ := Entry.get?_eq_directory hdir
  have hnamed : (Entry.directory es).WellNamed := ht.wellNamed.get? hes
  have hsources := Except.ok.inj (h.symm.trans (discover_of_get? ht.rooted hrs hes ext))
  subst hsources
  constructor
  · exact (hnamed.nodup_descendants hrs).sublist (List.filter_sublist.map _)
  · intro p hp
    obtain ⟨v, hv, rfl⟩ := List.mem_map.mp hp
    obtain ⟨hmem, hsource⟩ := List.mem_filter.mp hv
    obtain ⟨ds, hpath, hget, hds, hname⟩ := hnamed.isBelow hrs hmem
    obtain ⟨hfile, hending⟩ := Bool.and_eq_true_iff.mp hsource
    refine ⟨ds, v.name, ⟨?_, ?_, ?_, ?_⟩, hending⟩
    · rw [hpath, List.append_assoc]
    · apply IsClean.append (hrs.append fun d hd => (hds d hd).1)
      simpa using hname
    · intro d hd
      simpa using (hds d hd).2
    · cases hentry : v.entry with
      | directory es => simp [hentry, Entry.isDirectory] at hfile
      | file content =>
          refine ⟨content, Entry.fileAt?_eq_some_iff.mpr ?_⟩
          rw [List.append_assoc, Entry.get?_append, hes, Option.bind_some, hget, hentry]

theorem mem_of_sourceAt (ht : t.Rooted) (hrs : IsClean true rs) (hdir : t.root.isDirectoryAt rs)
    (h : discover t (Path.ofComponents true rs) ext = .ok sources) {ds : List Bytes} {name : Bytes}
    (hp : SourceAt t rs ds name p) (hends : name.endsWith ext) : p ∈ sources := by
  obtain ⟨es, hes⟩ := Entry.get?_eq_directory hdir
  have hsources := Except.ok.inj (h.symm.trans (discover_of_get? ht hrs hes ext))
  obtain ⟨content, hfile⟩ := hp.isFile
  have hget : (Entry.directory es).get? (ds ++ [name]) = some (.file content) := by
    rw [Entry.fileAt?_eq_some_iff, List.append_assoc, Entry.get?_append, hes] at hfile
    exact hfile
  have hds : ∀ d ∈ ds, IsProper d ∧ (!isSkipped d) = true := by
    intro d hd
    exact ⟨hp.clean.isProper d (by simp [hd]), by simp [hp.entered d hd]⟩
  have hname : IsProper name := hp.clean.isProper name (by simp)
  have hvisit := Entry.mem_descendants_of_get? hrs hds hname (fun hfile => by cases hfile) hget
  rw [hsources, hp.path_eq, List.append_assoc]
  refine List.mem_map.mpr ⟨_, List.mem_filter.mpr ⟨hvisit, ?_⟩, rfl⟩
  simp [isSource, Entry.isDirectory, hends]

theorem discover_of_not_isDirectoryAt (ht : t.WellFormed) (hrs : IsClean true rs)
    (hdir : ¬t.root.isDirectoryAt rs)
    (h : discover t (Path.ofComponents true rs) ext = .ok sources) :
    sources = [] ∨ sources = [Path.ofComponents true rs] ∧
      (∃ content, t.root.fileAt? rs = some content) ∧
      (Path.base (Path.ofComponents true rs)).endsWith ext := by
  have hentry := ht.rooted.toOption_entry (Path.clean_ofComponents hrs)
  rw [ht.rooted.locate_of_isClean hrs] at hentry
  unfold discover FileTree.stat at h
  cases hroot : t.entry (Path.ofComponents true rs) with
  | error fault =>
      rw [hroot] at h
      cases h
  | ok e =>
      rw [hroot, Except.toOption] at hentry
      cases e with
      | directory es => simp [Entry.isDirectoryAt, ← hentry, Entry.isDirectory] at hdir
      | file content =>
          rw [hroot] at h
          injection h with h
          dsimp only at h
          split at h
          · rename_i hending
            exact .inr ⟨h.symm, ⟨content, by rw [Entry.fileAt?, ← hentry]; rfl⟩, hending⟩
          · exact .inl h.symm

/-- A discovered source is a file with the extension of the search, at a clean absolute path. -/
theorem exists_source (ht : t.WellFormed) (hrs : IsClean true rs)
    (h : discover t (Path.ofComponents true rs) ext = .ok sources) (hp : p ∈ sources) :
    ∃ ps name, p = Path.ofComponents true (ps ++ [name]) ∧ IsClean true (ps ++ [name]) ∧
      (∃ content, t.root.fileAt? (ps ++ [name]) = some content) ∧ name.endsWith ext := by
  by_cases hdir : t.root.isDirectoryAt rs = true
  · obtain ⟨ds, name, hsource, hending⟩ := (discover_of_isDirectoryAt ht hrs hdir h).2 p hp
    exact ⟨rs ++ ds, name, hsource.path_eq, hsource.clean, hsource.isFile, hending⟩
  · rcases discover_of_not_isDirectoryAt ht hrs hdir h with rfl | ⟨rfl, hfile, hending⟩
    · cases hp
    · rcases List.eq_nil_or_concat rs with rfl | ⟨ps, name, rfl⟩
      · have hroot : t.root.isDirectoryAt [] :=
          Entry.isDirectoryAt_mono ht.rooted.isDirectory List.nil_prefix
        exact absurd hroot hdir
      · rw [List.concat_eq_append] at hrs hp hfile hending
        rw [Path.base_ofComponents (hrs.isProper name (by simp))] at hending
        exact ⟨ps, name, List.mem_singleton.mp hp, hrs, hfile, hending⟩

theorem nodup_of_discover (ht : t.WellFormed) (hrs : IsClean true rs)
    (h : discover t (Path.ofComponents true rs) ext = .ok sources) : sources.Nodup := by
  by_cases hdir : t.root.isDirectoryAt rs = true
  · exact (discover_of_isDirectoryAt ht hrs hdir h).1
  · rcases discover_of_not_isDirectoryAt ht hrs hdir h with rfl | ⟨rfl, _⟩
    · exact List.nodup_nil
    · exact List.nodup_singleton _

end ComponentCompiler.Component
