import ComponentCompiler.FileTree
import ComponentCompiler.Proofs.Path

/-!
# What reading and writing a file tree do

A tree is observed at lists of components: `fileAt?` is the content of the file there and
`isDirectoryAt` says that a directory is there. A clean path denotes one list of components
(`toOption_entry`), so making directories and writing a file are described by what they change in
these two observations.
-/

namespace ComponentCompiler.Entry

/-! ## Observing an entry -/

/-- The content of a file. -/
def content? : Entry → Option Bytes
  | file content => some content
  | directory _ => none

/-- The content of the file at a list of components. -/
def fileAt? (e : Entry) (cs : List Bytes) : Option Bytes := (e.get? cs).bind content?

/-- Whether a directory is at a list of components. -/
def isDirectoryAt (e : Entry) (cs : List Bytes) : Bool := (e.get? cs).any isDirectory

theorem get?_append (e : Entry) (cs ds : List Bytes) :
    e.get? (cs ++ ds) = (e.get? cs).bind (·.get? ds) := by
  induction cs generalizing e with
  | nil => rfl
  | cons c cs ih =>
      cases e with
      | file content => rfl
      | directory es =>
          rw [List.cons_append, get?, get?]
          cases es.lookup c with
          | none => rfl
          | some e => exact ih e

theorem fileAt?_cons (es : List (Bytes × Entry)) (c : Bytes) (cs : List Bytes) :
    (directory es).fileAt? (c :: cs) = (es.lookup c).bind (·.fileAt? cs) := by
  rw [fileAt?, get?]
  cases es.lookup c <;> rfl

theorem isDirectoryAt_cons (es : List (Bytes × Entry)) (c : Bytes) (cs : List Bytes) :
    (directory es).isDirectoryAt (c :: cs) = (es.lookup c).any (·.isDirectoryAt cs) := by
  rw [isDirectoryAt, get?]
  cases es.lookup c <;> rfl

theorem get?_eq_directory {e : Entry} {cs : List Bytes} (h : e.isDirectoryAt cs) :
    ∃ es, e.get? cs = some (directory es) := by
  unfold isDirectoryAt at h
  cases hget : e.get? cs with
  | none => simp [hget] at h
  | some x =>
      cases x with
      | file content => simp [hget, isDirectory] at h
      | directory es => exact ⟨es, rfl⟩

theorem fileAt?_eq_some_iff {e : Entry} {cs : List Bytes} {content : Bytes} :
    e.fileAt? cs = some content ↔ e.get? cs = some (file content) := by
  unfold fileAt?
  cases e.get? cs with
  | none => simp
  | some x => cases x <;> simp [content?]

theorem fileAt?_eq_none_of_isDirectoryAt {e : Entry} {cs : List Bytes} (h : e.isDirectoryAt cs) :
    e.fileAt? cs = none := by
  obtain ⟨es, hes⟩ := get?_eq_directory h
  rw [fileAt?, hes]
  rfl

/-- What leads to an entry is directories. -/
theorem isDirectoryAt_of_get?_append {e x : Entry} {cs ds : List Bytes}
    (h : e.get? (cs ++ ds) = some x) (hds : ds ≠ []) :
    e.isDirectoryAt cs := by
  rw [get?_append] at h
  obtain ⟨y, hy, hx⟩ := Option.bind_eq_some_iff.mp h
  rw [isDirectoryAt, hy]
  cases y with
  | directory es => rfl
  | file content =>
      cases ds with
      | nil => exact absurd rfl hds
      | cons d ds => cases hx

theorem isDirectoryAt_mono {e : Entry} {cs ds : List Bytes} (h : e.isDirectoryAt ds)
    (hcs : cs <+: ds) : e.isDirectoryAt cs := by
  obtain ⟨rest, rfl⟩ := hcs
  cases rest with
  | nil => rwa [List.append_nil] at h
  | cons d rest =>
      obtain ⟨es, hes⟩ := get?_eq_directory h
      exact isDirectoryAt_of_get?_append hes (List.cons_ne_nil d rest)

theorem get?_append_eq_none {e : Entry} {cs ds : List Bytes} (h : ¬e.isDirectoryAt cs)
    (hds : ds ≠ []) :
    e.get? (cs ++ ds) = none := by
  cases hget : e.get? (cs ++ ds) with
  | none => rfl
  | some x => exact absurd (isDirectoryAt_of_get?_append hget hds) h

/-! ## Putting an entry -/

theorem lookup_cons (n : Bytes) (e : Entry) (es : List (Bytes × Entry)) (other : Bytes) :
    ((n, e) :: es).lookup other = if other = n then some e else es.lookup other := by
  rw [List.lookup_cons]
  by_cases h : other = n
  · simp [h]
  · rw [if_neg h, beq_eq_false_iff_ne.mpr h]

theorem lookup_putNamed (name : Bytes) (e : Entry) (es : List (Bytes × Entry)) (other : Bytes) :
    (putNamed name e es).lookup other = if other = name then some e else es.lookup other := by
  induction es with
  | nil => exact lookup_cons name e [] other
  | cons x es ih =>
      obtain ⟨n, x⟩ := x
      rw [putNamed]
      split
      · rename_i hn
        rw [lookup_cons, lookup_cons, hn]
        by_cases h : other = name <;> simp [h]
      · rename_i hn
        split
        · exact lookup_cons name e _ other
        · rw [lookup_cons, lookup_cons, ih]
          by_cases h : other = name
          · simp [h, Ne.symm hn]
          · simp [h]

/-- No file stands on the way to a list of components. -/
def OpenWay (e : Entry) (cs : List Bytes) : Prop := ∀ ds, ds <+: cs → ds ≠ cs → e.fileAt? ds = none

theorem not_openWay_file (content c : Bytes) (cs : List Bytes) :
    ¬OpenWay (file content) (c :: cs) := by
  intro h
  have hfile := h [] List.nil_prefix (List.cons_ne_nil c cs).symm
  cases hfile

/-- The way goes on below the first component, where an empty directory stands for
what is missing. -/
theorem OpenWay.lookup {es : List (Bytes × Entry)} {c : Bytes} {cs : List Bytes}
    (h : OpenWay (directory es) (c :: cs)) : OpenWay ((es.lookup c).getD (directory [])) cs := by
  intro ds hds hne
  have hfile := h (c :: ds) ((List.prefix_cons_inj c).mpr hds) (by simpa using hne)
  rw [fileAt?_cons] at hfile
  cases hlookup : es.lookup c with
  | some x => simpa [hlookup] using hfile
  | none => cases ds <;> rfl

theorem openWay_of_isDirectoryAt {e : Entry} {cs : List Bytes} (h : e.isDirectoryAt cs)
    (c : Bytes) :
    OpenWay e (cs ++ [c]) := by
  intro ds hds hne
  rcases List.prefix_concat_iff.mp hds with heq | hds
  · exact absurd heq hne
  · exact fileAt?_eq_none_of_isDirectoryAt (isDirectoryAt_mono h hds)

theorem get?_put_append (new : Entry) {cs : List Bytes} {e : Entry} (hway : OpenWay e cs)
    (ds : List Bytes) : (put new cs e).get? (cs ++ ds) = new.get? ds := by
  induction cs generalizing e with
  | nil => rfl
  | cons c cs ih =>
      cases e with
      | file content => exact absurd hway (not_openWay_file content c cs)
      | directory es =>
          rw [put, List.cons_append, get?, lookup_putNamed, if_pos rfl]
          exact ih hway.lookup

theorem fileAt?_put_elsewhere (new : Entry) {cs ds : List Bytes} (h : ¬cs <+: ds) (e : Entry) :
    (put new cs e).fileAt? ds = e.fileAt? ds := by
  induction cs generalizing e ds with
  | nil => exact absurd List.nil_prefix h
  | cons c cs ih =>
      cases e with
      | file content => rfl
      | directory es =>
          cases ds with
          | nil => rfl
          | cons d ds =>
              rw [put, fileAt?_cons, fileAt?_cons, lookup_putNamed]
              by_cases hd : d = c
              · subst hd
                have hrest : ¬cs <+: ds := fun hp => h ((List.prefix_cons_inj d).mpr hp)
                rw [if_pos rfl, Option.bind_some, ih hrest]
                cases es.lookup d with
                | some x => rfl
                | none => cases ds <;> rfl
              · rw [if_neg hd]

/-- Directories elsewhere stay, and those on the way are made. -/
theorem isDirectoryAt_put_elsewhere (new : Entry) {cs ds : List Bytes} (h : ¬cs <+: ds) {e : Entry}
    (hway : OpenWay e cs) : (put new cs e).isDirectoryAt ds ↔ e.isDirectoryAt ds ∨ ds <+: cs := by
  induction cs generalizing e ds with
  | nil => exact absurd List.nil_prefix h
  | cons c cs ih =>
      cases e with
      | file content => exact absurd hway (not_openWay_file content c cs)
      | directory es =>
          cases ds with
          | nil => simp [put, isDirectoryAt, get?, isDirectory]
          | cons d ds =>
              rw [put, isDirectoryAt_cons, isDirectoryAt_cons, lookup_putNamed]
              by_cases hd : d = c
              · subst hd
                have hrest : ¬cs <+: ds := fun hp => h ((List.prefix_cons_inj d).mpr hp)
                rw [if_pos rfl, Option.any_some, ih hrest hway.lookup, List.prefix_cons_inj]
                cases es.lookup d with
                | some x => rfl
                | none =>
                    cases ds with
                    | nil => simp
                    | cons x ds => simp [isDirectoryAt, get?]
              · have hlead : ¬d :: ds <+: c :: cs := fun hp => hd (List.cons_prefix_cons.mp hp).1
                rw [if_neg hd]
                simp [hlead]

/-- A file that is put where no directory is, with its directory there, is the only change. -/
theorem fileAt?_put_file {cs : List Bytes} {e : Entry} (hway : OpenWay e cs)
    (hfree : ¬e.isDirectoryAt cs) (content : Bytes) (ds : List Bytes) :
    (put (file content) cs e).fileAt? ds = if ds = cs then some content else e.fileAt? ds := by
  by_cases hlead : cs <+: ds
  · obtain ⟨rest, rfl⟩ := hlead
    rw [fileAt?, get?_put_append _ hway]
    cases rest with
    | nil => simp [get?, content?]
    | cons d rest =>
        rw [if_neg (by simp), fileAt?, get?_append_eq_none hfree (List.cons_ne_nil d rest)]
        rfl
  · have hne : ds ≠ cs := by
      rintro rfl
      exact hlead (List.prefix_refl ds)
    rw [fileAt?_put_elsewhere _ hlead, if_neg hne]

theorem isDirectoryAt_put_file {cs : List Bytes} {c : Bytes} {e : Entry} (hdir : e.isDirectoryAt cs)
    (hfree : ¬e.isDirectoryAt (cs ++ [c])) (content : Bytes) (ds : List Bytes) :
    (put (file content) (cs ++ [c]) e).isDirectoryAt ds ↔ e.isDirectoryAt ds := by
  have hway := openWay_of_isDirectoryAt hdir c
  by_cases hlead : cs ++ [c] <+: ds
  · obtain ⟨rest, rfl⟩ := hlead
    have hbelow : ¬e.isDirectoryAt (cs ++ [c] ++ rest) := fun hd =>
      hfree (isDirectoryAt_mono hd (List.prefix_append _ _))
    refine iff_of_false ?_ hbelow
    rw [isDirectoryAt, get?_put_append _ hway]
    cases rest <;> simp [get?, isDirectory]
  · rw [isDirectoryAt_put_elsewhere _ hlead hway]
    refine ⟨?_, .inl⟩
    rintro (hd | hd)
    · exact hd
    · rcases List.prefix_concat_iff.mp hd with rfl | hd
      · exact absurd (List.prefix_refl _) hlead
      · exact isDirectoryAt_mono hdir hd

theorem fileAt?_put_directory {cs : List Bytes} {e : Entry} (hway : OpenWay e cs)
    (hfree : e.get? cs = none) (ds : List Bytes) :
    (put (directory []) cs e).fileAt? ds = e.fileAt? ds := by
  by_cases hlead : cs <+: ds
  · obtain ⟨rest, rfl⟩ := hlead
    rw [fileAt?, get?_put_append _ hway, fileAt?, get?_append, hfree]
    cases rest <;> rfl
  · exact fileAt?_put_elsewhere _ hlead e

theorem isDirectoryAt_put_directory {cs : List Bytes} {e : Entry} (hway : OpenWay e cs)
    (hfree : e.get? cs = none) (ds : List Bytes) :
    (put (directory []) cs e).isDirectoryAt ds ↔ e.isDirectoryAt ds ∨ ds <+: cs := by
  by_cases hlead : cs <+: ds
  · obtain ⟨rest, rfl⟩ := hlead
    rw [isDirectoryAt, get?_put_append _ hway, isDirectoryAt, get?_append, hfree]
    cases rest with
    | nil => simp [get?, isDirectory]
    | cons d rest =>
        have hlonger : ¬cs ++ d :: rest <+: cs := by
          intro hp
          have hle := hp.length_le
          rw [List.length_append, List.length_cons] at hle
          omega
        simp [get?, hlonger]
  · exact isDirectoryAt_put_elsewhere _ hlead hway

end ComponentCompiler.Entry

namespace ComponentCompiler.FileTree

open ComponentCompiler.Path (IsProper IsClean dot dotDot)

variable {t t' : FileTree} {p content : Bytes} {e : Entry}

/-! ## What a path denotes -/

/-- The working directory is there, and its path is clean. -/
structure Rooted (t : FileTree) : Prop where
  proper : ∀ c ∈ t.workingDirectory, IsProper c
  isDirectory : t.root.isDirectoryAt t.workingDirectory

/-- The components of the directory from which paths are followed, last first. -/
def origin (t : FileTree) (absolute : Bool) : List Bytes :=
  if absolute then [] else t.workingDirectory.reverse

theorem Rooted.isProper_origin (ht : t.Rooted) (absolute : Bool) :
    ∀ c ∈ t.origin absolute, IsProper c := by
  unfold origin
  split
  · simp
  · intro c hc
    exact ht.proper c (List.mem_reverse.mp hc)

theorem Rooted.isDirectoryAt_origin (ht : t.Rooted) (absolute : Bool) :
    t.root.isDirectoryAt (t.origin absolute).reverse := by
  unfold origin
  split
  · exact Entry.isDirectoryAt_mono ht.isDirectory List.nil_prefix
  · rw [List.reverse_reverse]
    exact ht.isDirectory

theorem Rooted.locate_eq (ht : t.Rooted) (p : Bytes) :
    t.locate p = Path.cancel true (t.origin (Path.isAbsolute p)) (Path.components p) := by
  have hcwd : IsClean true t.workingDirectory := Path.isClean_of_isProper ht.proper
  unfold locate Path.absolute origin
  by_cases hp : Path.isAbsolute p = true
  · rw [if_pos hp, if_pos hp, Path.cleanComponents_clean, Path.cleanComponents, hp]
  · have hne : t.cwd ≠ [] := Path.ofComponents_ne_nil fun _ hc => hcwd.eq_dotDot_or_isProper hc
    rw [if_neg hp, if_neg hp, Path.join_pair hne, Path.cleanComponents_clean,
      Path.cleanComponents_append_cons hne, cwd, Path.isAbsolute_ofComponents_of_isClean hcwd,
      Path.cleanComponents_ofComponents hcwd]

/-- Steps up leave the last components of a directory away. -/
theorem cancel_dotDot {here names : List Bytes} (hhere : ∀ c ∈ here, IsProper c)
    (hnames : ∀ c ∈ names, IsProper c) (up : Nat) :
    Path.cancel true here (List.replicate up dotDot ++ names) =
      (here.drop up).reverse ++ names := by
  induction up generalizing here with
  | zero =>
      rw [List.replicate_zero, List.nil_append, Path.cancel_of_isProper _ _ hnames, List.drop_zero]
  | succ up ih =>
      rw [List.replicate_succ, List.cons_append]
      cases here with
      | nil =>
          rw [Path.cancel_dotDot_nil, if_pos rfl, ih hhere]
          simp
      | cons a here =>
          rw [Path.cancel_dotDot_cons, if_neg (hhere a List.mem_cons_self).ne_dotDot,
            ih fun c hc => hhere c (List.mem_cons_of_mem a hc), List.drop_succ_cons]

theorem Rooted.locate_ofComponents (ht : t.Rooted) {absolute : Bool} {up : Nat} {names : List Bytes}
    (h : IsClean absolute (List.replicate up dotDot ++ names)) (hnames : ∀ c ∈ names, IsProper c) :
    t.locate (Path.ofComponents absolute (List.replicate up dotDot ++ names)) =
      ((t.origin absolute).drop up).reverse ++ names := by
  rw [ht.locate_eq, Path.isAbsolute_ofComponents_of_isClean h,
    Path.components_ofComponents fun _ hc => h.eq_dotDot_or_isProper hc,
    cancel_dotDot (ht.isProper_origin absolute) hnames]

theorem Rooted.locate_append (ht : t.Rooted) {absolute : Bool} {cs ds : List Bytes}
    (h : IsClean absolute cs) (hds : ∀ d ∈ ds, IsProper d) :
    t.locate (Path.ofComponents absolute (cs ++ ds)) =
      t.locate (Path.ofComponents absolute cs) ++ ds := by
  have hclean := h.append hds
  obtain ⟨up, names, rfl, hnames, _⟩ := id h
  have hall : ∀ c ∈ names ++ ds, IsProper c := by
    intro c hc
    rcases List.mem_append.mp hc with hc | hc
    · exact hnames c hc
    · exact hds c hc
  rw [List.append_assoc] at hclean ⊢
  rw [ht.locate_ofComponents hclean hall, ht.locate_ofComponents h hnames, List.append_assoc]

theorem follow_eq_ok {root : Entry} {here cs there : List Bytes} (hhere : ∀ c ∈ here, c ≠ dotDot)
    (h : follow root here cs = .ok there) :
    there.reverse = Path.cancel true here (cs.filter fun c => c != [] && c != dot) := by
  induction cs generalizing here with
  | nil =>
      rw [follow] at h
      injection h with h
      rw [h, List.filter_nil, Path.cancel]
  | cons c cs ih =>
      rw [follow] at h
      split at h
      · rename_i es _
        split at h
        · rename_i hskip
          have hfilter : (c != [] && c != dot) = false := by
            rcases hskip with rfl | rfl <;> simp
          rw [List.filter_cons_of_neg (by simp [hfilter])]
          exact ih hhere h
        · rename_i hskip
          have hfilter : (c != [] && c != dot) = true := by
            rw [not_or] at hskip
            simp [hskip.1, hskip.2]
          simp only [List.filter_cons, hfilter, if_true]
          split at h
          · rename_i hup
            subst hup
            cases here with
            | nil =>
                rw [Path.cancel_dotDot_nil, if_pos rfl]
                exact ih hhere h
            | cons a here =>
                rw [Path.cancel_dotDot_cons, if_neg (hhere a List.mem_cons_self)]
                exact ih (fun d hd => hhere d (List.mem_cons_of_mem a hd)) h
          · rename_i hup
            split at h
            · rw [Path.cancel_cons _ _ hup]
              refine ih ?_ h
              intro d hd
              rcases List.mem_cons.mp hd with rfl | hd
              · exact hup
              · exact hhere d hd
            · cases h
      · cases h
      · cases h

/-- The entry at a path is where the path denotes. -/
theorem get?_of_entry (ht : t.Rooted) (h : t.entry p = .ok e) :
    t.root.get? (t.locate p) = some e := by
  unfold entry at h
  cases hresolve : t.resolve p with
  | error fault => simp [hresolve, Except.bind] at h
  | ok cs =>
      have hlocate : cs = t.locate p := by
        unfold resolve at hresolve
        split at hresolve
        · cases hresolve
        · cases hfollow : follow t.root (t.origin (Path.isAbsolute p)) (p.splitOn Ascii.slash) with
          | error fault =>
              rw [origin] at hfollow
              simp [hfollow, Except.map] at hresolve
          | ok there =>
              have hthere :=
                follow_eq_ok (fun c hc => (ht.isProper_origin _ c hc).ne_dotDot) hfollow
              rw [origin] at hfollow
              simp only [hfollow, Except.map, Except.ok.injEq] at hresolve
              rw [ht.locate_eq, ← hresolve, hthere]
              rfl
      rw [← hlocate]
      simp only [hresolve, Except.bind] at h
      split at h
      · injection h with h
        rw [← h]
        assumption
      · cases h

theorem follow_skip {root : Entry} {here : List Bytes} (hdir : root.isDirectoryAt here.reverse)
    {c : Bytes} (hc : c = [] ∨ c = dot) (cs : List Bytes) :
    follow root here (c :: cs) = follow root here cs := by
  obtain ⟨es, hes⟩ := Entry.get?_eq_directory hdir
  rw [follow, hes]
  simp [hc]

theorem follow_dotDot {root : Entry} {here : List Bytes} (hdir : root.isDirectoryAt here.reverse)
    (up : Nat) (cs : List Bytes) :
    follow root here (List.replicate up dotDot ++ cs) = follow root (here.drop up) cs := by
  induction up generalizing here with
  | zero => rfl
  | succ up ih =>
      obtain ⟨es, hes⟩ := Entry.get?_eq_directory hdir
      have hparent : root.isDirectoryAt here.tail.reverse := by
        apply Entry.isDirectoryAt_mono hdir
        cases here with
        | nil => exact List.prefix_refl _
        | cons a here =>
            rw [List.tail_cons, List.reverse_cons]
            exact List.prefix_append _ _
      have hskip : ¬(dotDot = [] ∨ dotDot = dot) := by decide
      rw [List.replicate_succ, List.cons_append, follow, hes]
      simp only [if_neg hskip, if_pos]
      rw [ih hparent]
      cases here <;> simp

theorem follow_of_get? {root x : Entry} {here names : List Bytes} (hnames : ∀ c ∈ names, IsProper c)
    (h : root.get? (here.reverse ++ names) = some x) :
    follow root here names = .ok (names.reverse ++ here) := by
  induction names generalizing here with
  | nil => rfl
  | cons c names ih =>
      have hc := hnames c List.mem_cons_self
      have hskip : ¬(c = [] ∨ c = dot) := not_or.mpr ⟨hc.ne_nil, hc.ne_dot⟩
      obtain ⟨es, hes⟩ := Entry.get?_eq_directory
        (Entry.isDirectoryAt_of_get?_append h (List.cons_ne_nil c names))
      have hlookup : (es.lookup c).isSome := by
        rw [Entry.get?_append, hes, Option.bind_some, Entry.get?] at h
        cases hlookup : es.lookup c with
        | none => simp [hlookup] at h
        | some y => rfl
      have hrest : follow root (c :: here) names = .ok (names.reverse ++ (c :: here)) := by
        refine ih (fun d hd => hnames d (List.mem_cons_of_mem c hd)) ?_
        rwa [List.reverse_cons, List.append_assoc, List.singleton_append]
      rw [follow, hes]
      simp only [if_neg hskip, if_neg hc.ne_dotDot, if_pos hlookup]
      rw [hrest, List.reverse_cons, List.append_assoc, List.singleton_append]

/-- Nothing but the components of a clean path is followed. -/
theorem follow_splitOn {absolute : Bool} {cs : List Bytes} (h : IsClean absolute cs) {root : Entry}
    {here : List Bytes} (hdir : root.isDirectoryAt here.reverse) :
    follow root here ((Path.ofComponents absolute cs).splitOn Ascii.slash) =
      follow root here cs := by
  have hslash : ∀ c ∈ cs, Ascii.slash ∉ c := fun c hc =>
    (Path.ne_nil_of_eq_dotDot_or_isProper (h.eq_dotDot_or_isProper hc)).1
  unfold Path.ofComponents
  cases absolute with
  | true =>
      rw [if_pos rfl, ← List.nil_append (Ascii.slash :: _), List.splitOn_append_cons_self]
      rw [List.splitOn_nil, List.singleton_append,
        follow_skip hdir (.inl rfl)]
      cases cs with
      | nil => exact follow_skip hdir (.inl rfl) []
      | cons c cs => rw [List.splitOn_intercalate _ hslash (List.cons_ne_nil c cs)]
  | false =>
      rw [if_neg (by decide)]
      cases cs with
      | nil => exact follow_skip hdir (.inr rfl) []
      | cons c cs =>
          rw [List.isEmpty_cons, if_neg (by decide),
            List.splitOn_intercalate _ hslash (List.cons_ne_nil c cs)]

/-- A clean path leads to what it denotes, if that is there. -/
theorem Rooted.toOption_entry (ht : t.Rooted) (hp : Path.clean p = p) :
    (t.entry p).toOption = t.root.get? (t.locate p) := by
  have hclean := Path.isClean_cleanComponents p
  obtain ⟨up, names, hcs, hnames, _⟩ := Path.isClean_cleanComponents p
  have hpath : Path.ofComponents (Path.isAbsolute p) (List.replicate up dotDot ++ names) = p := by
    rw [← hcs]
    exact hp
  rw [hcs] at hclean
  have hlocate := ht.locate_ofComponents hclean hnames
  rw [hpath] at hlocate
  apply Option.ext
  intro x
  constructor
  · intro h
    apply get?_of_entry ht
    cases hentry : t.entry p with
    | error fault => simp [hentry, Except.toOption] at h
    | ok y => simpa [hentry, Except.toOption] using h
  · intro h
    have hdir := ht.isDirectoryAt_origin (Path.isAbsolute p)
    have hfollow : follow t.root (t.origin (Path.isAbsolute p)) (p.splitOn Ascii.slash) =
        .ok (names.reverse ++ (t.origin (Path.isAbsolute p)).drop up) := by
      have hsplit := follow_splitOn hclean hdir
      rw [hpath, follow_dotDot hdir] at hsplit
      rw [hsplit]
      exact follow_of_get? hnames (hlocate ▸ h)
    have hresolve : t.resolve p = .ok (t.locate p) := by
      have hne : p ≠ [] := hp ▸ Path.clean_ne_nil p
      unfold origin at hfollow
      rw [resolve, if_neg hne, hfollow, hlocate]
      simp [Except.map, origin]
    simp [entry, hresolve, Except.bind, h, Except.toOption]

theorem Rooted.isDirectory_eq (ht : t.Rooted) (hp : Path.clean p = p) :
    t.isDirectory p = t.root.isDirectoryAt (t.locate p) := by
  rw [FileTree.isDirectory, ht.toOption_entry hp, Entry.isDirectoryAt]

theorem Rooted.read_eq_ok_iff (ht : t.Rooted) (hp : Path.clean p = p) :
    t.read p = .ok content ↔ t.root.fileAt? (t.locate p) = some content := by
  rw [Entry.fileAt?_eq_some_iff, ← ht.toOption_entry hp, read, stat]
  cases t.entry p with
  | error fault => exact iff_of_false nofun nofun
  | ok e =>
      cases e with
      | file x =>
          change Except.ok x = Except.ok content ↔ some (Entry.file x) = some (Entry.file content)
          simp
      | directory es => exact iff_of_false nofun nofun

/-! ## Making directories -/

theorem mem_beginnings {cs ds : List Bytes} : ds ∈ beginnings cs ↔ ds ≠ [] ∧ ds <+: cs := by
  induction cs generalizing ds with
  | nil =>
      rw [beginnings, List.prefix_nil]
      simp
  | cons c cs ih =>
      rw [beginnings, List.mem_cons, List.mem_map]
      constructor
      · rintro (rfl | ⟨xs, hxs, rfl⟩)
        · exact ⟨List.cons_ne_nil c [], (List.prefix_cons_inj c).mpr List.nil_prefix⟩
        · exact ⟨List.cons_ne_nil c xs, (List.prefix_cons_inj c).mpr (ih.mp hxs).2⟩
      · rintro ⟨hne, hds⟩
        cases ds with
        | nil => exact absurd rfl hne
        | cons d ds =>
            obtain ⟨rfl, hrest⟩ := List.cons_prefix_cons.mp hds
            by_cases hnil : ds = []
            · exact .inl (by rw [hnil])
            · exact .inr ⟨ds, ih.mpr ⟨hnil, hrest⟩, rfl⟩

theorem prefix_append_cases {xs ys zs : List Bytes} (h : zs <+: xs ++ ys) :
    zs <+: xs ∨ ∃ rest, rest <+: ys ∧ zs = xs ++ rest := by
  rcases List.prefix_or_prefix_of_prefix h (List.prefix_append xs ys) with hfront | ⟨rest, rfl⟩
  · exact .inl hfront
  · exact .inr ⟨rest, (List.prefix_append_right_inj xs).mp h, rfl⟩

theorem reverse_drop_prefix_reverse (xs : List Bytes) (n : Nat) :
    (xs.drop n).reverse <+: xs.reverse :=
  List.reverse_prefix.mpr (List.drop_suffix n xs)

theorem Rooted.locate_ancestor (ht : t.Rooted) {q : Bytes} (hq : q ∈ ancestors p) :
    Path.clean q = q ∧
      (t.root.isDirectoryAt (t.locate q) ∨ t.locate q <+: t.locate (Path.clean p)) := by
  obtain ⟨ds, hds, rfl⟩ := List.mem_map.mp hq
  have hlead := (mem_beginnings.mp hds).2
  have hclean := Path.isClean_cleanComponents p
  have hfront := hclean.front hlead
  refine ⟨Path.clean_ofComponents hfront, ?_⟩
  obtain ⟨up, names, hcs, hnames, habsolute⟩ := Path.isClean_cleanComponents p
  rw [hcs] at hclean hlead
  rw [Path.clean, hcs, ht.locate_ofComponents hclean hnames]
  rcases prefix_append_cases hlead with hup | ⟨rest, hrest, rfl⟩
  · have hds : ds = List.replicate ds.length dotDot ++ [] := by
      rw [List.append_nil, List.eq_replicate_iff]
      exact ⟨rfl, fun c hc => List.eq_of_mem_replicate (hup.subset hc)⟩
    rw [hds] at hfront ⊢
    rw [ht.locate_ofComponents hfront (by simp), List.append_nil]
    exact .inl (Entry.isDirectoryAt_mono (ht.isDirectoryAt_origin _)
      (reverse_drop_prefix_reverse _ _))
  · rw [ht.locate_ofComponents hfront fun c hc => hnames c (hrest.subset hc)]
    exact .inr ((List.prefix_append_right_inj _).mpr hrest)

/-- What leads to what a path denotes is a directory, or an ancestor of the path denotes it. -/
theorem Rooted.exists_ancestor (ht : t.Rooted) (hp : Path.clean p = p) {cs : List Bytes}
    (h : cs <+: t.locate p) : t.root.isDirectoryAt cs ∨ ∃ q ∈ ancestors p, t.locate q = cs := by
  have hclean := Path.isClean_cleanComponents p
  obtain ⟨up, names, hcs, hnames, _⟩ := Path.isClean_cleanComponents p
  rw [hcs] at hclean
  rw [← hp, Path.clean, hcs, ht.locate_ofComponents hclean hnames] at h
  have horigin := ht.isDirectoryAt_origin (Path.isAbsolute p)
  rcases prefix_append_cases h with hfront | ⟨rest, hrest, rfl⟩
  · exact .inl (Entry.isDirectoryAt_mono horigin (hfront.trans (reverse_drop_prefix_reverse _ _)))
  · by_cases hnil : rest = []
    · rw [hnil, List.append_nil]
      exact .inl (Entry.isDirectoryAt_mono horigin (reverse_drop_prefix_reverse _ _))
    · have hlead : List.replicate up dotDot ++ rest <+: List.replicate up dotDot ++ names :=
        (List.prefix_append_right_inj _).mpr hrest
      refine .inr ⟨Path.ofComponents (Path.isAbsolute p) (List.replicate up dotDot ++ rest), ?_, ?_⟩
      · rw [ancestors, hcs]
        exact List.mem_map_of_mem (mem_beginnings.mpr ⟨by simp [hnil], hlead⟩)
      · exact ht.locate_ofComponents (hclean.front hlead) fun c hc => hnames c (hrest.subset hc)

/-- An ancestor is in the way exactly if a file is met on the way to what the path denotes. -/
theorem Rooted.find?_ancestors_eq_none_iff (ht : t.Rooted) (hp : Path.clean p = p) :
    ((ancestors p).find? fun q => (t.entry q).toOption.any fun e => !e.isDirectory) = none ↔
      ∀ cs, cs <+: t.locate p → t.root.fileAt? cs = none := by
  have hfile : ∀ q, Path.clean q = q → (((t.entry q).toOption.any fun e => !e.isDirectory) = true ↔
      t.root.fileAt? (t.locate q) ≠ none) := by
    intro q hq
    rw [ht.toOption_entry hq, Entry.fileAt?]
    cases t.root.get? (t.locate q) with
    | none => simp
    | some e => cases e <;> simp [Entry.isDirectory, Entry.content?]
  rw [List.find?_eq_none]
  constructor
  · intro h cs hcs
    rcases ht.exists_ancestor hp hcs with hdir | ⟨q, hq, rfl⟩
    · exact Entry.fileAt?_eq_none_of_isDirectoryAt hdir
    · have hnone := h q hq
      rw [hfile q (ht.locate_ancestor hq).1, ne_eq, Classical.not_not] at hnone
      exact hnone
  · intro h q hq
    obtain ⟨hclean, hlocate⟩ := ht.locate_ancestor hq
    rw [hfile q hclean, ne_eq, Classical.not_not]
    rcases hlocate with hdir | hlead
    · exact Entry.fileAt?_eq_none_of_isDirectoryAt hdir
    · rw [hp] at hlead
      exact h _ hlead

/-- `t'` is `t` with the directory `cs` and all that lead to it. -/
structure MakesDirectory (t : FileTree) (cs : List Bytes) (t' : FileTree) : Prop where
  workingDirectory : t'.workingDirectory = t.workingDirectory
  fileAt? : ∀ ds, t'.root.fileAt? ds = t.root.fileAt? ds
  isDirectoryAt : ∀ ds, t'.root.isDirectoryAt ds ↔ t.root.isDirectoryAt ds ∨ ds <+: cs

theorem Rooted.makesDirectory (ht : t.Rooted) (hp : Path.clean p = p)
    (h : t.makeDirectories p = .ok t') : MakesDirectory t (t.locate p) t' := by
  unfold makeDirectories at h
  split at h
  · cases h
  · rename_i hnone
    have hway := (ht.find?_ancestors_eq_none_iff hp).mp hnone
    injection h with h
    rw [ht.isDirectory_eq hp] at h
    by_cases hdir : t.root.isDirectoryAt (t.locate p) = true
    · rw [if_pos hdir] at h
      subst h
      refine ⟨rfl, fun _ => rfl, fun ds => ⟨.inl, ?_⟩⟩
      rintro (hds | hds)
      · exact hds
      · exact Entry.isDirectoryAt_mono hdir hds
    · rw [if_neg hdir] at h
      subst h
      have hopen : t.root.OpenWay (t.locate p) := fun ds hds _ => hway ds hds
      have hfree : t.root.get? (t.locate p) = none := by
        have hfile := hway _ (List.prefix_refl _)
        unfold Entry.isDirectoryAt at hdir
        unfold Entry.fileAt? at hfile
        cases hget : t.root.get? (t.locate p) with
        | none => rfl
        | some e => cases e <;> simp [hget, Entry.isDirectory, Entry.content?] at hdir hfile
      exact ⟨rfl, Entry.fileAt?_put_directory hopen hfree,
        Entry.isDirectoryAt_put_directory hopen hfree⟩

theorem Rooted.exists_makeDirectories (ht : t.Rooted) (hp : Path.clean p = p)
    (h : ∀ cs, cs <+: t.locate p → t.root.fileAt? cs = none) :
    ∃ t', t.makeDirectories p = .ok t' := by
  unfold makeDirectories
  rw [(ht.find?_ancestors_eq_none_iff hp).mpr h]
  exact ⟨_, rfl⟩

theorem MakesDirectory.rooted {cs : List Bytes} (h : MakesDirectory t cs t') (ht : t.Rooted) :
    t'.Rooted where
  proper := by
    rw [h.workingDirectory]
    exact ht.proper
  isDirectory := by
    rw [h.workingDirectory, h.isDirectoryAt]
    exact .inl ht.isDirectory

/-! ## Writing files -/

/-- `t'` is `t` with the file `cs` written. -/
structure Writes (t : FileTree) (cs : List Bytes) (content : Bytes) (t' : FileTree) : Prop where
  workingDirectory : t'.workingDirectory = t.workingDirectory
  fileAt? : ∀ ds, t'.root.fileAt? ds = if ds = cs then some content else t.root.fileAt? ds
  isDirectoryAt : ∀ ds, t'.root.isDirectoryAt ds ↔ t.root.isDirectoryAt ds

/-- What is no directory has a name in the directory of its path. -/
theorem Rooted.exists_locate_eq (ht : t.Rooted) (hp : Path.clean p = p)
    (hfree : ¬t.root.isDirectoryAt (t.locate p)) :
    ∃ c, t.locate p = t.locate (Path.dir p) ++ [c] := by
  have hclean := Path.isClean_cleanComponents p
  obtain ⟨up, names, hcs, hnames, _⟩ := Path.isClean_cleanComponents p
  rw [hcs] at hclean
  have hpath : Path.ofComponents (Path.isAbsolute p) (List.replicate up dotDot ++ names) = p := by
    rw [← hcs]
    exact hp
  have hlocate := ht.locate_ofComponents hclean hnames
  rw [hpath] at hlocate
  rcases List.eq_nil_or_concat names with rfl | ⟨names, c, rfl⟩
  · rw [hlocate, List.append_nil] at hfree
    exact absurd (Entry.isDirectoryAt_mono (ht.isDirectoryAt_origin _)
      (reverse_drop_prefix_reverse _ _)) hfree
  · rw [List.concat_eq_append] at hnames hlocate hpath hclean
    rw [← List.append_assoc] at hpath hclean
    have hfront := hclean.front (List.prefix_append _ _)
    have hdir := Path.dir_ofComponents hfront (hnames c (by simp)).slash
    rw [hpath] at hdir
    refine ⟨c, ?_⟩
    rw [hlocate, hdir, ht.locate_ofComponents hfront fun d hd => hnames d (by simp [hd]),
      List.append_assoc]

theorem Rooted.writes (ht : t.Rooted) (hp : Path.clean p = p)
    (hdir : t.root.isDirectoryAt (t.locate (Path.dir p))) (h : t.write p content = .ok t') :
    Writes t (t.locate p) content t' := by
  rw [write, ht.isDirectory_eq hp] at h
  by_cases hfree : t.root.isDirectoryAt (t.locate p) = true
  · rw [if_pos hfree] at h
    cases h
  · rw [if_neg hfree] at h
    injection h with h
    subst h
    obtain ⟨c, hlocate⟩ := ht.exists_locate_eq hp hfree
    refine ⟨rfl, ?_, ?_⟩
    · refine Entry.fileAt?_put_file ?_ hfree content
      rw [hlocate]
      exact Entry.openWay_of_isDirectoryAt hdir c
    · intro ds
      rw [hlocate] at hfree
      rw [put, hlocate]
      exact Entry.isDirectoryAt_put_file hdir hfree content ds

theorem Rooted.exists_write (ht : t.Rooted) (hp : Path.clean p = p)
    (hfree : ¬t.root.isDirectoryAt (t.locate p)) (content : Bytes) :
    ∃ t', t.write p content = .ok t' := by
  rw [write, ht.isDirectory_eq hp, if_neg hfree]
  exact ⟨_, rfl⟩

theorem Writes.rooted {cs : List Bytes} (h : Writes t cs content t') (ht : t.Rooted) :
    t'.Rooted where
  proper := by
    rw [h.workingDirectory]
    exact ht.proper
  isDirectory := by
    rw [h.workingDirectory, h.isDirectoryAt]
    exact ht.isDirectory

end ComponentCompiler.FileTree
