import ComponentCompiler.Proofs.Discovery

/-!
# Where paths lead

Cleaning a path does not change what it denotes, so a joined path can be followed piece by piece. A
path that leads to a file ends with the name of the file, also if it is not clean.
-/

namespace ComponentCompiler.Path

theorem isAbsolute_clean (p : Bytes) : isAbsolute (clean p) = isAbsolute p :=
  isAbsolute_ofComponents_of_isClean (isClean_cleanComponents p)

theorem isAbsolute_of_dir {p : Bytes} (h : isAbsolute (dir p)) : isAbsolute p := by
  rw [dir, isAbsolute_clean] at h
  cases p with
  | nil => simp [isAbsolute] at h
  | cons b p =>
      generalize (b :: p).length - (afterLastSlash (b :: p)).length = n at h
      cases n with
      | zero => simp [isAbsolute] at h
      | succ n => exact h

theorem exists_ofComponents_concat (cs : List Bytes) (c : Bytes) :
    ∃ front, ofComponents true (cs ++ [c]) = front ++ Ascii.slash :: c := by
  by_cases hne : cs = []
  · subst hne
    exact ⟨[], ofComponents_root c⟩
  · exact ⟨_, ofComponents_concat true hne c⟩

theorem endsWith_append {q r ext : Bytes} (h : q.endsWith ext) : (r ++ q).endsWith ext :=
  List.isSuffixOf_iff_suffix.mpr ((List.isSuffixOf_iff_suffix.mp h).trans (List.suffix_append r q))

theorem endsWith_ofComponents {cs : List Bytes} {c ext : Bytes} (h : c.endsWith ext) :
    (ofComponents true (cs ++ [c])).endsWith ext := by
  obtain ⟨front, hfront⟩ := exists_ofComponents_concat cs c
  rw [hfront, ← List.singleton_append, ← List.append_assoc]
  exact endsWith_append h

/-- An ending without a slash is an ending of the last component. -/
theorem endsWith_of_endsWith_ofComponents {cs : List Bytes} {c ext : Bytes}
    (hext : Ascii.slash ∉ ext) (h : (ofComponents true (cs ++ [c])).endsWith ext) :
    c.endsWith ext := by
  obtain ⟨front, hfront⟩ := exists_ofComponents_concat cs c
  rw [hfront, ← List.singleton_append, ← List.append_assoc] at h
  apply List.isSuffixOf_iff_suffix.mpr
  rcases List.suffix_or_suffix_of_suffix (List.isSuffixOf_iff_suffix.mp h)
    (List.suffix_append _ c) with
    hsuffix | ⟨rest, rfl⟩
  · exact hsuffix
  · rcases List.eq_nil_or_concat rest with rfl | ⟨rest, b, rfl⟩
    · exact List.suffix_refl c
    · -- the byte in front of the last component is a slash
      obtain ⟨lead, hlead⟩ := List.isSuffixOf_iff_suffix.mp h
      rw [← List.append_assoc] at hlead
      have hslash := List.append_cancel_right hlead
      rw [List.concat_eq_append, ← List.append_assoc] at hslash
      obtain rfl : b = Ascii.slash := List.singleton_inj.mp (List.append_inj' hslash rfl).2
      exact absurd (by simp) hext

/-- Steps up that cancel what stands in front of them do so before or after the path is put behind
another. -/
theorem cancel_cancel (acc : List Bytes) {names cs : List Bytes} (up : Nat)
    (hnames : ∀ c ∈ names, IsProper c) (hcs : ∀ c ∈ cs, c = dotDot ∨ IsProper c) :
    cancel true acc (cancel false (names ++ List.replicate up dotDot) cs) =
      cancel true acc ((names ++ List.replicate up dotDot).reverse ++ cs) := by
  induction cs generalizing names up with
  | nil => rw [cancel, List.append_nil]
  | cons c cs ih =>
      obtain ⟨hc, hrest⟩ := List.forall_mem_cons.mp hcs
      by_cases hup : c = dotDot
      · subst hup
        cases names with
        | nil =>
            have hnext := ih (up + 1) (List.forall_mem_nil IsProper) hrest
            simp only [List.nil_append, List.reverse_replicate] at hnext ⊢
            rw [List.append_cons, ← List.replicate_succ', ← hnext]
            cases up with
            | zero => rw [List.replicate_zero, cancel_dotDot_nil]; rfl
            | succ up => rw [List.replicate_succ, cancel_dotDot_cons, if_pos rfl]; rfl
        | cons name names =>
            obtain ⟨hname, hnames'⟩ := List.forall_mem_cons.mp hnames
            rw [List.cons_append, cancel_dotDot_cons, if_neg hname.ne_dotDot, ih up hnames' hrest,
              List.reverse_cons, List.append_assoc, cancel_append,
              cancel_append true acc _ ([name] ++ _), List.singleton_append,
              cancel_cons _ _ hname.ne_dotDot, cancel_dotDot_cons, if_neg hname.ne_dotDot]
      · have hproper := hc.resolve_left hup
        rw [cancel_cons _ _ hup, ← List.cons_append,
          ih up (List.forall_mem_cons.mpr ⟨hproper, hnames⟩) hrest, List.cons_append,
          List.reverse_cons, List.append_assoc, List.singleton_append]

end ComponentCompiler.Path

namespace ComponentCompiler.FileTree

open ComponentCompiler.Path (IsProper IsClean)

variable {t : FileTree} {p : Bytes}

theorem Rooted.eq_ofComponents (ht : t.Rooted) (hclean : Path.clean p = p)
    (hp : Path.isAbsolute p) :
    p = Path.ofComponents true (t.locate p) ∧ IsClean true (t.locate p) := by
  obtain ⟨habsolute, hlocate⟩ := ht.absolute_eq p
  rw [Path.absolute, if_pos hp, hclean] at habsolute
  exact ⟨habsolute, hlocate⟩

theorem Rooted.clean_absolute (ht : t.Rooted) (p : Bytes) :
    Path.clean (Path.absolute t.cwd p) = Path.absolute t.cwd p := by
  obtain ⟨habsolute, hlocate⟩ := ht.absolute_eq p
  rw [habsolute, Path.clean_ofComponents hlocate]

theorem Rooted.locate_absolute (ht : t.Rooted) (p : Bytes) :
    t.locate (Path.absolute t.cwd p) = t.locate p := by
  obtain ⟨habsolute, hlocate⟩ := ht.absolute_eq p
  rw [habsolute, ht.locate_of_isClean hlocate]

theorem Rooted.absolute_ofComponents (ht : t.Rooted) {cs : List Bytes} (h : IsClean true cs) :
    Path.absolute t.cwd (Path.ofComponents true cs) = Path.ofComponents true cs := by
  rw [(ht.absolute_eq _).1, ht.locate_of_isClean h]

theorem Rooted.absolute_absolute (ht : t.Rooted) (p : Bytes) :
    Path.absolute t.cwd (Path.absolute t.cwd p) = Path.absolute t.cwd p := by
  obtain ⟨habsolute, hlocate⟩ := ht.absolute_eq p
  rw [habsolute, ht.absolute_ofComponents hlocate]

theorem Rooted.isDirectory_absolute (ht : t.Rooted) (p : Bytes) :
    t.isDirectory (Path.absolute t.cwd p) = t.root.isDirectoryAt (t.locate p) := by
  rw [ht.isDirectory_eq (ht.clean_absolute p), ht.locate_absolute]

/-! ## Cleaning and joining -/

theorem Rooted.locate_clean (ht : t.Rooted) (p : Bytes) : t.locate (Path.clean p) = t.locate p := by
  have hclean := Path.isClean_cleanComponents p
  rw [ht.locate_eq, ht.locate_eq, Path.isAbsolute_clean, Path.clean,
    Path.components_ofComponents fun _ hc => hclean.eq_dotDot_or_isProper hc]
  cases hp : Path.isAbsolute p with
  | true =>
      rw [hp] at hclean
      rw [origin, if_pos rfl, Path.cancel_of_isClean hclean, Path.cleanComponents, hp]
  | false =>
      rw [Path.cleanComponents, hp]
      exact Path.cancel_cancel _ 0 (List.forall_mem_nil IsProper) fun _ hc =>
        Path.eq_dotDot_or_isProper hc

theorem Rooted.locate_join (ht : t.Rooted) {p : Bytes} (hp : p ≠ []) (q : Bytes) :
    t.locate (Path.join [p, q]) = Path.cancel true (t.locate p).reverse (Path.components q) := by
  rw [Path.join_pair hp, ht.locate_clean, ht.locate_eq, Path.isAbsolute_append hp,
    Path.components_append_cons, Path.cancel_append, ← ht.locate_eq]

/-! ## Paths of files -/

theorem follow_concat_eq_ok {root : Entry} {here cs there : List Bytes} {c content : Bytes}
    (h : follow root here (cs ++ [c]) = .ok there)
    (hfile : root.get? there.reverse = some (.file content)) :
    c ≠ [] ∧ c ≠ Path.dot ∧ c ≠ Path.dotDot := by
  induction cs generalizing here with
  | nil =>
      rw [List.nil_append, follow] at h
      split at h
      · rename_i es hhere
        split at h
        · -- the path would end at the directory itself
          obtain rfl : here = there := Except.ok.inj h
          rw [hhere] at hfile
          cases hfile
        · rename_i hname
          rw [not_or] at hname
          refine ⟨hname.1, hname.2, ?_⟩
          rintro rfl
          rw [if_pos rfl] at h
          obtain rfl : here.tail = there := Except.ok.inj h
          have hdir : root.isDirectoryAt here.reverse := by
            rw [Entry.isDirectoryAt, hhere]
            rfl
          have hparent : root.isDirectoryAt here.tail.reverse := by
            apply Entry.isDirectoryAt_mono hdir
            cases here with
            | nil => exact List.prefix_refl _
            | cons a here => simp
          rw [Entry.isDirectoryAt, hfile] at hparent
          cases hparent
      · cases h
      · cases h
  | cons d cs ih =>
      rw [List.cons_append, follow] at h
      split at h
      · split at h
        · exact ih h
        · split at h
          · exact ih h
          · split at h
            · exact ih h
            · cases h
      · cases h
      · cases h

theorem isProper_of_entry (h : t.entry p = .ok (.file content)) {pieces : List Bytes} {name : Bytes}
    (hp : p.splitOn Ascii.slash = pieces ++ [name]) : IsProper name := by
  have hslash : Ascii.slash ∉ name := Bytes.not_mem_of_mem_splitOn (s := p) (by simp [hp])
  unfold entry resolve at h
  split at h
  · cases h
  · rw [hp] at h
    cases hfollow : follow t.root (if Path.isAbsolute p then [] else t.workingDirectory.reverse)
        (pieces ++ [name]) with
    | error fault => simp [hfollow, Except.map, Except.bind] at h
    | ok there =>
        have hfile : t.root.get? there.reverse = some (.file content) := by
          simp only [hfollow, Except.map, Except.bind] at h
          split at h
          · rename_i hget
            rw [hget, Except.ok.inj h]
          · cases h
        obtain ⟨hne, hdot, hdotDot⟩ := follow_concat_eq_ok hfollow hfile
        exact ⟨hne, hslash, hdot, hdotDot⟩

/-- A path that leads to a file ends with its name, which stands in the directory of the path. -/
theorem Rooted.locate_file (ht : t.Rooted) (h : t.entry p = .ok (.file content)) :
    IsProper (Path.base p) ∧ t.locate p = t.locate (Path.dir p) ++ [Path.base p] := by
  by_cases hslash : Ascii.slash ∈ p
  · obtain ⟨front, name, rfl, hname⟩ := Bytes.exists_last_split hslash
    have hsplit := List.splitOn_append_cons_self (a := Ascii.slash) front name
    rw [List.splitOn_eq_singleton hname] at hsplit
    have hproper := isProper_of_entry h hsplit
    have hdir : Path.dir (front ++ Ascii.slash :: name) = Path.clean (front ++ [Ascii.slash]) := by
      rw [Path.dir, Path.afterLastSlash_append hname]
      congr 1
      rw [List.append_cons, List.length_append, Nat.add_sub_cancel, List.take_left]
    have habsolute :
        Path.isAbsolute (front ++ Ascii.slash :: name) =
          Path.isAbsolute (front ++ [Ascii.slash]) := by
      cases front <;> rfl
    rw [Path.base_append hproper, hdir, ht.locate_clean, ht.locate_eq, ht.locate_eq, habsolute,
      Path.components_append_cons, Path.components_append_cons, Path.components_of_isProper hproper,
      Path.cancel_append, Path.cancel_of_isProper _ _ (by simpa using hproper),
      List.reverse_reverse]
    exact ⟨hproper, by rw [show Path.components [] = [] from rfl, List.append_nil]⟩
  · have hsplit : p.splitOn Ascii.slash = [] ++ [p] := List.splitOn_eq_singleton hslash
    have hproper := isProper_of_entry h hsplit
    have hrelative : Path.isAbsolute p = false := by
      cases p with
      | nil => rfl
      | cons b p =>
          have hb : b ≠ Ascii.slash := fun hb => hslash (by simp [hb])
          simpa [Path.isAbsolute] using hb
    have hdir : Path.dir p = Path.dot := by
      rw [Path.dir, Path.afterLastSlash_of_not_mem hslash, Nat.sub_self, List.take_zero]
      rfl
    rw [Path.base_of_isProper hproper, hdir, ht.locate_eq, ht.locate_eq, hrelative,
      Path.components_of_isProper hproper, Path.cancel_of_isProper _ _ (by simpa using hproper)]
    exact ⟨hproper, rfl⟩

theorem Rooted.dir_absolute (ht : t.Rooted) (h : t.entry p = .ok (.file content)) :
    Path.dir (Path.absolute t.cwd p) = Path.absolute t.cwd (Path.dir p) := by
  obtain ⟨hproper, hlocate⟩ := ht.locate_file h
  obtain ⟨hdir, hclean⟩ := ht.absolute_eq (Path.dir p)
  rw [(ht.absolute_eq p).1, hlocate, Path.dir_ofComponents hclean hproper.slash, hdir]

theorem Rooted.base_absolute (ht : t.Rooted) (h : t.entry p = .ok (.file content)) :
    Path.base (Path.absolute t.cwd p) = Path.base p := by
  obtain ⟨hproper, hlocate⟩ := ht.locate_file h
  rw [(ht.absolute_eq p).1, hlocate, Path.base_ofComponents hproper]

end ComponentCompiler.FileTree
