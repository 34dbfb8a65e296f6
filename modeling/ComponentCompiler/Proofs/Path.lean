import ComponentCompiler.Path

/-!
# Clean paths

Cleaning a path leaves steps up, which only a relative path can have, and then proper names. A clean
path and the list of its components determine each other (`cleanComponents_ofComponents`), so what
joining, taking the directory and comparing do to clean paths is said here on their components.
-/

namespace ComponentCompiler.Bytes

theorem not_mem_of_mem_splitOn {sep : UInt8} {s piece : Bytes} (h : piece ∈ s.splitOn sep) :
    sep ∉ piece := by
  induction s generalizing piece with
  | nil =>
      rw [List.splitOn_nil, List.mem_singleton] at h
      rw [h]
      exact List.not_mem_nil
  | cons c s ih =>
      rw [List.splitOn_cons_eq_if_modifyHead] at h
      by_cases hc : c = sep
      · simp only [hc, beq_self_eq_true, if_true] at h
        rcases List.mem_cons.mp h with rfl | h
        · exact List.not_mem_nil
        · exact ih h
      · obtain ⟨first, others, hs⟩ := List.exists_cons_of_ne_nil (List.splitOn_ne_nil sep s)
        rw [if_neg (by simpa using hc), hs, List.modifyHead_cons] at h
        rcases List.mem_cons.mp h with rfl | h
        · have hfirst := ih (hs ▸ List.mem_cons_self)
          simp [hfirst, Ne.symm hc]
        · exact ih (hs ▸ List.mem_cons_of_mem first h)

theorem intercalate_concat {sep : Bytes} {pieces : List Bytes} (hne : pieces ≠ []) (last : Bytes) :
    sep.intercalate (pieces ++ [last]) = sep.intercalate pieces ++ sep ++ last := by
  obtain ⟨piece, pieces, rfl⟩ := List.exists_cons_of_ne_nil hne
  rw [List.cons_append, intercalate_cons, intercalate_cons, List.flatMap_append]
  simp

theorem exists_last_split {b : UInt8} {s : Bytes} (h : b ∈ s) :
    ∃ front rest, s = front ++ b :: rest ∧ b ∉ rest := by
  obtain ⟨rest, front, hsplit, hrest⟩ := List.eq_append_cons_of_mem (List.mem_reverse.mpr h)
  refine ⟨front.reverse, rest.reverse, ?_, by simpa using hrest⟩
  rw [← List.reverse_reverse s, hsplit]
  simp

end ComponentCompiler.Bytes

namespace ComponentCompiler.Path

/-! ## Components -/

/-- A component that can name an entry of a directory. -/
structure IsProper (c : Bytes) : Prop where
  ne_nil : c ≠ []
  slash : Ascii.slash ∉ c
  ne_dot : c ≠ dot
  ne_dotDot : c ≠ dotDot

instance (c : Bytes) : Decidable (IsProper c) :=
  decidable_of_iff (c ≠ [] ∧ Ascii.slash ∉ c ∧ c ≠ dot ∧ c ≠ dotDot)
    ⟨fun ⟨h, hslash, hdot, hdotDot⟩ => ⟨h, hslash, hdot, hdotDot⟩,
      fun h => ⟨h.ne_nil, h.slash, h.ne_dot, h.ne_dotDot⟩⟩

/-- The components of a clean path: steps up, which an absolute path does not have, and then
proper names. -/
def IsClean (absolute : Bool) (cs : List Bytes) : Prop :=
  ∃ up names, cs = List.replicate up dotDot ++ names ∧ (∀ c ∈ names, IsProper c) ∧
    (absolute → up = 0)

variable {absolute : Bool} {p c : Bytes} {cs ds : List Bytes}

theorem isClean_of_isProper (h : ∀ c ∈ cs, IsProper c) : IsClean absolute cs :=
  ⟨0, cs, rfl, h, fun _ => rfl⟩

theorem IsClean.isProper (h : IsClean true cs) : ∀ c ∈ cs, IsProper c := by
  obtain ⟨up, names, rfl, hnames, hup⟩ := h
  rw [hup rfl]
  exact hnames

theorem IsClean.append (h : IsClean absolute cs) (hds : ∀ d ∈ ds, IsProper d) :
    IsClean absolute (cs ++ ds) := by
  obtain ⟨up, names, rfl, hnames, hup⟩ := h
  refine ⟨up, names ++ ds, List.append_assoc _ _ _, ?_, hup⟩
  intro c hc
  rcases List.mem_append.mp hc with hc | hc
  · exact hnames c hc
  · exact hds c hc

theorem IsClean.front (h : IsClean absolute cs) (hds : ds <+: cs) : IsClean absolute ds := by
  obtain ⟨up, names, rfl, hnames, hup⟩ := h
  rcases List.prefix_or_prefix_of_prefix hds
    (List.prefix_append (List.replicate up dotDot) names) with
    hfront | ⟨rest, rfl⟩
  · refine ⟨ds.length, [], ?_, by simp, ?_⟩
    · rw [List.append_nil, List.eq_replicate_iff]
      exact ⟨rfl, fun c hc => List.eq_of_mem_replicate (hfront.subset hc)⟩
    · intro habsolute
      have hlength := hfront.length_le
      rw [List.length_replicate, hup habsolute] at hlength
      exact Nat.le_zero.mp hlength
  · have hrest := (List.prefix_append_right_inj _).mp hds
    exact ⟨up, rest, rfl, fun c hc => hnames c (hrest.subset hc), hup⟩

theorem IsClean.eq_dotDot_or_isProper (h : IsClean absolute cs) (hc : c ∈ cs) :
    c = dotDot ∨ IsProper c := by
  obtain ⟨up, names, rfl, hnames, _⟩ := h
  rcases List.mem_append.mp hc with hc | hc
  · exact .inl (List.eq_of_mem_replicate hc)
  · exact .inr (hnames c hc)

theorem eq_dotDot_or_isProper (h : c ∈ components p) : c = dotDot ∨ IsProper c := by
  obtain ⟨hmem, hkeep⟩ := List.mem_filter.mp h
  simp only [Bool.and_eq_true, bne_iff_ne] at hkeep
  by_cases hc : c = dotDot
  · exact .inl hc
  · exact .inr ⟨hkeep.1, Bytes.not_mem_of_mem_splitOn hmem, hkeep.2, hc⟩

theorem components_append_cons (p q : Bytes) :
    components (p ++ Ascii.slash :: q) = components p ++ components q := by
  rw [components, List.splitOn_append_cons_self, List.filter_append]
  rfl

theorem components_of_isProper (h : IsProper c) : components c = [c] := by
  rw [components, List.splitOn_eq_singleton h.slash]
  simp [h.ne_nil, h.ne_dot]

/-- Steps up and proper names hold no slash, are not empty and are not dropped. -/
theorem ne_nil_of_eq_dotDot_or_isProper (h : c = dotDot ∨ IsProper c) :
    Ascii.slash ∉ c ∧ c ≠ [] ∧ c ≠ dot := by
  rcases h with rfl | h
  · exact ⟨by decide, by decide, by decide⟩
  · exact ⟨h.slash, h.ne_nil, h.ne_dot⟩

theorem components_ofComponents (h : ∀ c ∈ cs, c = dotDot ∨ IsProper c) :
    components (ofComponents absolute cs) = cs := by
  have hkeep : (cs.filter fun c => c != [] && c != dot) = cs := by
    rw [List.filter_eq_self]
    intro c hc
    have hc := ne_nil_of_eq_dotDot_or_isProper (h c hc)
    simp [hc.2.1, hc.2.2]
  have hjoin : components ([Ascii.slash].intercalate cs) = cs := by
    cases cs with
    | nil => rfl
    | cons c cs =>
        rw [components, List.splitOn_intercalate _
          (fun c hc => (ne_nil_of_eq_dotDot_or_isProper (h c hc)).1) (List.cons_ne_nil _ _), hkeep]
  unfold ofComponents
  cases absolute with
  | true =>
      rw [if_pos rfl, ← List.nil_append (Ascii.slash :: _), components_append_cons, hjoin]
      rfl
  | false =>
      rw [if_neg (by decide)]
      cases cs with
      | nil => rfl
      | cons c cs => exact hjoin

theorem isAbsolute_ofComponents (h : ∀ c ∈ cs, c = dotDot ∨ IsProper c) :
    isAbsolute (ofComponents absolute cs) = absolute := by
  unfold ofComponents isAbsolute
  cases absolute with
  | true => rfl
  | false =>
      rw [if_neg (by decide)]
      cases cs with
      | nil => rfl
      | cons c cs =>
          obtain ⟨hslash, hne, _⟩ := ne_nil_of_eq_dotDot_or_isProper (h c List.mem_cons_self)
          cases c with
          | nil => exact absurd rfl hne
          | cons b c =>
              have hb : b ≠ Ascii.slash := fun hb => hslash (hb ▸ List.mem_cons_self)
              cases cs <;> simp [List.intercalate_cons_cons, hb]

/-! ## Cancelling -/

theorem cancel_cons (absolute : Bool) (acc : List Bytes) (hc : c ≠ dotDot) (cs : List Bytes) :
    cancel absolute acc (c :: cs) = cancel absolute (c :: acc) cs := by
  rw [cancel.eq_def]
  simp [hc]

theorem cancel_dotDot_nil (absolute : Bool) (cs : List Bytes) :
    cancel absolute [] (dotDot :: cs) = cancel absolute (if absolute then [] else [dotDot]) cs := by
  rw [cancel.eq_def]
  simp

theorem cancel_dotDot_cons (absolute : Bool) (a : Bytes) (acc cs : List Bytes) :
    cancel absolute (a :: acc) (dotDot :: cs) =
      cancel absolute (if a = dotDot then dotDot :: a :: acc else acc) cs := by
  rw [cancel.eq_def]
  by_cases ha : a = dotDot <;> simp [ha]

theorem cancel_append (absolute : Bool) (acc xs ys : List Bytes) :
    cancel absolute acc (xs ++ ys) = cancel absolute (cancel absolute acc xs).reverse ys := by
  induction xs generalizing acc with
  | nil => rw [List.nil_append, cancel, List.reverse_reverse]
  | cons x xs ih =>
      rw [List.cons_append]
      by_cases hx : x = dotDot
      · subst hx
        cases acc with
        | nil => rw [cancel_dotDot_nil, cancel_dotDot_nil, ih]
        | cons a acc => rw [cancel_dotDot_cons, cancel_dotDot_cons, ih]
      · rw [cancel_cons absolute acc hx, cancel_cons absolute acc hx, ih]

theorem cancel_of_isProper (absolute : Bool) (acc : List Bytes) (h : ∀ c ∈ cs, IsProper c) :
    cancel absolute acc cs = acc.reverse ++ cs := by
  induction cs generalizing acc with
  | nil => rw [cancel, List.append_nil]
  | cons c cs ih =>
      rw [cancel_cons absolute acc (h c List.mem_cons_self).ne_dotDot,
        ih _ fun d hd => h d (List.mem_cons_of_mem c hd)]
      simp

theorem cancel_replicate_dotDot (n m : Nat) :
    cancel false (List.replicate n dotDot) (List.replicate m dotDot) =
      List.replicate (n + m) dotDot := by
  induction m generalizing n with
  | zero => rw [List.replicate_zero, cancel, List.reverse_replicate, Nat.add_zero]
  | succ m ih =>
      have hnext := ih (n + 1)
      rw [Nat.add_right_comm, Nat.add_assoc] at hnext
      rw [← hnext, List.replicate_succ]
      cases n with
      | zero => rw [List.replicate_zero, cancel_dotDot_nil]; rfl
      | succ n => rw [List.replicate_succ, cancel_dotDot_cons, if_pos rfl]; rfl

theorem cancel_of_isClean (h : IsClean absolute cs) : cancel absolute [] cs = cs := by
  obtain ⟨up, names, rfl, hnames, hup⟩ := h
  have hfront : cancel absolute [] (List.replicate up dotDot) = List.replicate up dotDot := by
    cases absolute with
    | true => rw [hup rfl, List.replicate_zero, cancel, List.reverse_nil]
    | false => simpa using cancel_replicate_dotDot 0 up
  rw [cancel_append, hfront, cancel_of_isProper _ _ hnames, List.reverse_reverse]

/-- Cancelling keeps the form of what was kept before. -/
theorem isClean_cancel (names : List Bytes) (up : Nat) (hnames : ∀ c ∈ names, IsProper c)
    (hup : absolute → up = 0) (h : ∀ c ∈ cs, c = dotDot ∨ IsProper c) :
    IsClean absolute (cancel absolute (names ++ List.replicate up dotDot) cs) := by
  induction cs generalizing names up with
  | nil =>
      refine ⟨up, names.reverse, ?_, ?_, hup⟩
      · rw [cancel, List.reverse_append, List.reverse_replicate]
      · intro c hc
        exact hnames c (List.mem_reverse.mp hc)
  | cons c cs ih =>
      have hrest : ∀ c ∈ cs, c = dotDot ∨ IsProper c := fun d hd => h d (List.mem_cons_of_mem c hd)
      rcases h c List.mem_cons_self with rfl | hc
      · cases names with
        | cons name names =>
            have hname := hnames name List.mem_cons_self
            rw [List.cons_append, cancel_dotDot_cons, if_neg hname.ne_dotDot]
            exact ih names up (fun d hd => hnames d (List.mem_cons_of_mem name hd)) hup hrest
        | nil =>
            rw [List.nil_append]
            cases up with
            | zero =>
                rw [List.replicate_zero, cancel_dotDot_nil]
                cases absolute with
                | true => exact ih [] 0 (by simp) hup hrest
                | false => exact ih [] 1 (by simp) (by simp) hrest
            | succ up =>
                rw [List.replicate_succ, cancel_dotDot_cons, if_pos rfl, ← List.replicate_succ,
                  ← List.replicate_succ]
                refine ih [] (up + 2) (by simp) ?_ hrest
                intro habsolute
                exact absurd (hup habsolute) (Nat.succ_ne_zero up)
      · rw [cancel_cons absolute _ hc.ne_dotDot, ← List.cons_append]
        refine ih (c :: names) up ?_ hup hrest
        intro d hd
        rcases List.mem_cons.mp hd with rfl | hd
        · exact hc
        · exact hnames d hd

theorem isClean_cleanComponents (p : Bytes) : IsClean (isAbsolute p) (cleanComponents p) :=
  isClean_cancel [] 0 (by simp) (fun _ => rfl) fun _ hc => eq_dotDot_or_isProper hc

/-! ## Clean paths and their components -/

theorem cleanComponents_ofComponents (h : IsClean absolute cs) :
    cleanComponents (ofComponents absolute cs) = cs := by
  have hcs : ∀ c ∈ cs, c = dotDot ∨ IsProper c := fun c hc => h.eq_dotDot_or_isProper hc
  rw [cleanComponents, isAbsolute_ofComponents hcs, components_ofComponents hcs,
    cancel_of_isClean h]

theorem cleanComponents_clean (p : Bytes) : cleanComponents (clean p) = cleanComponents p :=
  cleanComponents_ofComponents (isClean_cleanComponents p)

theorem isAbsolute_ofComponents_of_isClean (h : IsClean absolute cs) :
    isAbsolute (ofComponents absolute cs) = absolute :=
  isAbsolute_ofComponents fun _ hc => h.eq_dotDot_or_isProper hc

theorem clean_ofComponents (h : IsClean absolute cs) :
    clean (ofComponents absolute cs) = ofComponents absolute cs := by
  rw [clean, isAbsolute_ofComponents_of_isClean h, cleanComponents_ofComponents h]

theorem clean_clean (p : Bytes) : clean (clean p) = clean p :=
  clean_ofComponents (isClean_cleanComponents p)

theorem ofComponents_inj (hcs : IsClean absolute cs) (hds : IsClean absolute ds)
    (h : ofComponents absolute cs = ofComponents absolute ds) : cs = ds := by
  rw [← cleanComponents_ofComponents hcs, h, cleanComponents_ofComponents hds]

theorem ofComponents_ne_nil (h : ∀ c ∈ cs, c = dotDot ∨ IsProper c) :
    ofComponents absolute cs ≠ [] := by
  unfold ofComponents
  cases absolute with
  | true => exact List.cons_ne_nil _ _
  | false =>
      cases cs with
      | nil => decide
      | cons c cs =>
          have hc := (ne_nil_of_eq_dotDot_or_isProper (h c List.mem_cons_self)).2.1
          cases cs <;> simp [List.intercalate_cons_cons, hc]

theorem clean_ne_nil (p : Bytes) : clean p ≠ [] :=
  ofComponents_ne_nil fun _ hc => (isClean_cleanComponents p).eq_dotDot_or_isProper hc

theorem isAbsolute_append {p : Bytes} (hp : p ≠ []) (q : Bytes) :
    isAbsolute (p ++ q) = isAbsolute p := by
  cases p with
  | nil => exact absurd rfl hp
  | cons b p => rfl

/-- A path cleaned behind a directory goes on from the directory's clean components. -/
theorem cleanComponents_append_cons {p : Bytes} (hp : p ≠ []) (q : Bytes) :
    cleanComponents (p ++ Ascii.slash :: q) =
      cancel (isAbsolute p) (cleanComponents p).reverse (components q) := by
  rw [cleanComponents, isAbsolute_append hp, components_append_cons, cancel_append]
  rfl

theorem join_pair {p : Bytes} (hp : p ≠ []) (q : Bytes) :
    join [p, q] = clean (p ++ Ascii.slash :: q) := by
  have hempty : p.isEmpty = false := by simpa using hp
  simp [join, hempty, List.intercalate_cons_cons]

theorem join_triple {p : Bytes} (hp : p ≠ []) (q r : Bytes) :
    join [p, q, r] = clean (p ++ Ascii.slash :: (q ++ Ascii.slash :: r)) := by
  have hempty : p.isEmpty = false := by simpa using hp
  simp [join, hempty, List.intercalate_cons_cons]

theorem components_intercalate (ps : List Bytes) :
    components ([Ascii.slash].intercalate ps) = ps.flatMap components := by
  induction ps with
  | nil => rfl
  | cons p ps ih =>
      cases ps with
      | nil => rw [List.intercalate_singleton, List.flatMap_singleton]
      | cons q ps =>
          rw [List.flatMap_cons, ← ih, ← components_append_cons, List.intercalate_cons_cons]
          simp

/-- Elements joined to a path go on from its clean components. -/
theorem join_cons {p : Bytes} (hp : p ≠ []) (qs : List Bytes) :
    join (p :: qs) = ofComponents (isAbsolute p)
      (cancel (isAbsolute p) (cleanComponents p).reverse (qs.flatMap components)) := by
  have hjoin : join (p :: qs) = clean ([Ascii.slash].intercalate (p :: qs)) := by
    have hempty : p.isEmpty = false := by simpa using hp
    simp [join, hempty]
  rw [hjoin]
  cases qs with
  | nil => rw [List.intercalate_singleton, List.flatMap_nil, cancel, List.reverse_reverse, clean]
  | cons q qs =>
      have happend : [Ascii.slash].intercalate (p :: q :: qs) =
          p ++ Ascii.slash :: [Ascii.slash].intercalate (q :: qs) := by
        simp [List.intercalate_cons_cons]
      rw [happend, clean, isAbsolute_append hp, cleanComponents_append_cons hp,
        components_intercalate]

theorem flatMap_components_of_isProper (hcs : ∀ c ∈ cs, IsProper c) :
    cs.flatMap components = cs := by
  induction cs with
  | nil => rfl
  | cons c cs ih =>
      obtain ⟨hc, hcs⟩ := List.forall_mem_cons.mp hcs
      rw [List.flatMap_cons, components_of_isProper hc, ih hcs, List.singleton_append]

/-- Names joined to a path stand behind its clean components. -/
theorem join_of_isProper {p : Bytes} (hp : p ≠ []) (hcs : ∀ c ∈ cs, IsProper c) :
    join (p :: cs) = ofComponents (isAbsolute p) (cleanComponents p ++ cs) := by
  rw [join_cons hp, flatMap_components_of_isProper hcs, cancel_of_isProper _ _ hcs,
    List.reverse_reverse]

/-- A name joined to a clean path is one more component. -/
theorem join_ofComponents (h : IsClean absolute cs) (hc : IsProper c) :
    join [ofComponents absolute cs, c] = ofComponents absolute (cs ++ [c]) := by
  have hne : ofComponents absolute cs ≠ [] :=
    ofComponents_ne_nil fun _ hd => h.eq_dotDot_or_isProper hd
  rw [join_pair hne, clean, isAbsolute_append hne, cleanComponents_append_cons hne,
    isAbsolute_ofComponents_of_isClean h, cleanComponents_ofComponents h, components_of_isProper hc,
    cancel_of_isProper _ _ (by simpa using hc), List.reverse_reverse]

/-! ## Last components -/

theorem takeWhile_ne {sep : UInt8} {q : Bytes} (hq : sep ∉ q) (r : Bytes) :
    (q.reverse ++ r).takeWhile (· != sep) = q.reverse ++ r.takeWhile (· != sep) := by
  apply List.takeWhile_append_of_pos
  intro b hb
  rw [bne_iff_ne]
  rintro rfl
  exact hq (List.mem_reverse.mp hb)

theorem afterLastSlash_append {q : Bytes} (hq : Ascii.slash ∉ q) (p : Bytes) :
    afterLastSlash (p ++ Ascii.slash :: q) = q := by
  rw [afterLastSlash, List.reverse_append, List.reverse_cons, List.append_assoc, takeWhile_ne hq,
    List.singleton_append, List.takeWhile_cons_of_neg (by simp), List.append_nil,
    List.reverse_reverse]

theorem afterLastSlash_of_not_mem {q : Bytes} (hq : Ascii.slash ∉ q) : afterLastSlash q = q := by
  have hrun := takeWhile_ne hq []
  rw [List.append_nil, List.takeWhile_nil, List.append_nil] at hrun
  rw [afterLastSlash, hrun, List.reverse_reverse]

/-- A clean path is its directory, a slash and its last component, unless the directory is the root
or the directory itself. -/
theorem ofComponents_concat (absolute : Bool) (hne : cs ≠ []) (c : Bytes) :
    ofComponents absolute (cs ++ [c]) = ofComponents absolute cs ++ Ascii.slash :: c := by
  unfold ofComponents
  rw [Bytes.intercalate_concat hne]
  cases absolute with
  | true => simp
  | false => simp [hne]

theorem ofComponents_root (c : Bytes) : ofComponents true [c] = Ascii.slash :: c := by
  rw [ofComponents, if_pos rfl, List.intercalate_singleton]

theorem dir_ofComponents (h : IsClean absolute cs) (hc : Ascii.slash ∉ c) :
    dir (ofComponents absolute (cs ++ [c])) = ofComponents absolute cs := by
  by_cases hne : cs = []
  · subst hne
    cases absolute with
    | true =>
        have hpath : ofComponents true ([] ++ [c]) = [] ++ Ascii.slash :: c := ofComponents_root c
        rw [hpath, dir, afterLastSlash_append hc]
        simp
        decide
    | false =>
        have hpath : ofComponents false ([] ++ [c]) = c := by simp [ofComponents]
        rw [hpath, dir, afterLastSlash_of_not_mem hc]
        simp
        decide
  · have hpath : ofComponents absolute cs ≠ [] :=
      ofComponents_ne_nil fun _ hd => h.eq_dotDot_or_isProper hd
    have htake : (ofComponents absolute cs ++ Ascii.slash :: c).take
        ((ofComponents absolute cs ++ Ascii.slash :: c).length - c.length) =
        ofComponents absolute cs ++ [Ascii.slash] := by
      have happend : ofComponents absolute cs ++ Ascii.slash :: c =
          (ofComponents absolute cs ++ [Ascii.slash]) ++ c := by simp
      rw [happend, List.length_append, Nat.add_sub_cancel, List.take_left]
    rw [ofComponents_concat absolute hne, dir, afterLastSlash_append hc, htake, clean,
      isAbsolute_append hpath, cleanComponents_append_cons hpath,
      isAbsolute_ofComponents_of_isClean h, cleanComponents_ofComponents h]
    have hend : cancel absolute cs.reverse (components []) = cs := by
      rw [show components [] = [] from rfl, cancel, List.reverse_reverse]
    rw [hend]

theorem base_eq {p r : Bytes} (hc : IsProper c) (hp : p.reverse = c.reverse ++ r)
    (hr : r.takeWhile (· != Ascii.slash) = []) : base p = c := by
  have hkeep : (c.reverse ++ r).dropWhile (· == Ascii.slash) = c.reverse ++ r := by
    rcases List.eq_nil_or_concat c with rfl | ⟨front, b, rfl⟩
    · exact absurd rfl hc.ne_nil
    · have hb : b ≠ Ascii.slash := by
        rintro rfl
        exact hc.slash (by simp)
      rw [List.concat_eq_append, List.reverse_concat, List.cons_append,
        List.dropWhile_cons_of_neg (by simpa using hb)]
  have hne : c.reverse ++ r ≠ [] := by simp [hc.ne_nil]
  unfold base
  rw [hp, hkeep]
  split
  · contradiction
  · rw [takeWhile_ne hc.slash, hr, List.append_nil, List.reverse_reverse]

theorem base_append (hc : IsProper c) (p : Bytes) : base (p ++ Ascii.slash :: c) = c :=
  base_eq hc (r := Ascii.slash :: p.reverse) (by simp) (List.takeWhile_cons_of_neg (by simp))

theorem base_of_isProper (hc : IsProper c) : base c = c := base_eq hc (List.append_nil _).symm rfl

theorem base_ofComponents (hc : IsProper c) (cs : List Bytes) :
    base (ofComponents true (cs ++ [c])) = c := by
  by_cases hne : cs = []
  · subst hne
    rw [List.nil_append, ofComponents_root]
    exact base_append hc []
  · rw [ofComponents_concat true hne]
    exact base_append hc _

theorem base_append_slashes (hp : p ≠ []) {slashes : Bytes} (h : ∀ b ∈ slashes, b = Ascii.slash) :
    base (p ++ slashes) = base p := by
  have hdrop :
      (p ++ slashes).reverse.dropWhile (· == Ascii.slash) =
        p.reverse.dropWhile (· == Ascii.slash) := by
    rw [List.reverse_append]
    apply List.dropWhile_append_of_pos
    intro b hb
    rw [beq_iff_eq]
    exact h b (List.mem_reverse.mp hb)
  have hempty : (p ++ slashes).isEmpty = p.isEmpty := by
    cases p with
    | nil => exact absurd rfl hp
    | cons b p => rfl
  rw [base, hdrop, hempty]
  rfl

theorem slash_of_dropWhile (rev : Bytes) :
    rev.dropWhile (· != Ascii.slash) = [] ∨
      ∃ more, rev.dropWhile (· != Ascii.slash) = Ascii.slash :: more := by
  cases hdrop : rev.dropWhile (· != Ascii.slash) with
  | nil => exact .inl rfl
  | cons b more =>
      have hhead := List.head?_dropWhile_not (· != Ascii.slash) rev
      rw [hdrop] at hhead
      have hb : b = Ascii.slash := by simpa using hhead
      exact .inr ⟨more, by rw [hb]⟩

/-- A path is its last component between a slash, if anything is in front of it, and further
slashes; a path of slashes and the empty one have a last component of their own. -/
theorem base_cases (p : Bytes) :
    base p = dot ∨ base p = [Ascii.slash] ∨ ∃ front slashes, p = front ++ base p ++ slashes ∧
      Ascii.slash ∉ base p ∧ (front = [] ∨ ∃ dir, front = dir ++ [Ascii.slash]) ∧
        ∀ b ∈ slashes, b = Ascii.slash := by
  cases hrev : p.reverse.dropWhile (· == Ascii.slash) with
  | nil =>
      unfold base
      rw [hrev]
      by_cases hempty : p.isEmpty
      · exact .inl (if_pos hempty)
      · exact .inr (.inl (if_neg hempty))
  | cons b more =>
      have hbase : base p = ((b :: more).takeWhile (· != Ascii.slash)).reverse := by
        unfold base
        rw [hrev]
      have hp : p = ((b :: more).dropWhile (· != Ascii.slash)).reverse ++ base p ++
          (p.reverse.takeWhile (· == Ascii.slash)).reverse := by
        rw [hbase, ← List.reverse_append, List.takeWhile_append_dropWhile, ← hrev,
          ← List.reverse_append, List.takeWhile_append_dropWhile, List.reverse_reverse]
      refine .inr (.inr ⟨_, _, hp, ?_, ?_, ?_⟩)
      · rw [hbase]
        intro hmem
        have hslash := List.all_eq_true.mp List.all_takeWhile _ (List.mem_reverse.mp hmem)
        simp at hslash
      · rcases slash_of_dropWhile (b :: more) with h | ⟨dir, h⟩
        · exact .inl (by rw [h, List.reverse_nil])
        · exact .inr ⟨dir.reverse, by rw [h, List.reverse_cons]⟩
      · intro b hb
        simpa using List.all_eq_true.mp List.all_takeWhile b (List.mem_reverse.mp hb)

theorem extension_append {front rest : Bytes} (hslash : Ascii.slash ∉ front ++ Ascii.dot :: rest)
    (hdot : Ascii.dot ∉ rest) : extension (front ++ Ascii.dot :: rest) = Ascii.dot :: rest := by
  have hreverse :
      (front ++ Ascii.dot :: rest).reverse = rest.reverse ++ Ascii.dot :: front.reverse := by simp
  unfold extension
  dsimp only
  rw [afterLastSlash_of_not_mem hslash, hreverse, if_pos (by simp), takeWhile_ne hdot,
    List.takeWhile_cons_of_neg (by simp), List.append_nil, List.reverse_reverse]

theorem dropEnding_extension_append {front rest : Bytes}
    (hslash : Ascii.slash ∉ front ++ Ascii.dot :: rest) (hdot : Ascii.dot ∉ rest) :
    (front ++ Ascii.dot :: rest).dropEnding (extension (front ++ Ascii.dot :: rest)) = front := by
  have hends : (front ++ Ascii.dot :: rest).endsWith (Ascii.dot :: rest) :=
    List.isSuffixOf_iff_suffix.mpr (List.suffix_append _ _)
  rw [extension_append hslash hdot, Bytes.dropEnding, if_pos hends]
  simp

theorem dropEnding_extension_of_not_mem (hslash : Ascii.slash ∉ p) (hdot : Ascii.dot ∉ p) :
    p.dropEnding (extension p) = p := by
  have hext : extension p = [] := by
    unfold extension
    dsimp only
    rw [afterLastSlash_of_not_mem hslash, if_neg (by simpa using hdot)]
  rw [hext]
  simp [Bytes.dropEnding]

/-! ## From one path to another -/

theorem dropCommon_append (cs ds : List Bytes) : dropCommon cs (cs ++ ds) = ([], ds) := by
  induction cs with
  | nil => cases ds <;> rfl
  | cons c cs ih => rw [List.cons_append, dropCommon, if_pos rfl, ih]

/-- The way from a directory down to one below it. -/
theorem relative?_append (h : IsClean true cs) (hds : ∀ d ∈ ds, IsProper d) :
    relative? (ofComponents true cs) (ofComponents true (cs ++ ds)) =
      some (ofComponents false ds) := by
  have hall : IsClean true (cs ++ ds) := h.append hds
  unfold relative?
  rw [clean_ofComponents h, clean_ofComponents hall]
  by_cases hne : ds = []
  · rw [hne, List.append_nil, if_pos rfl]
    rfl
  · have hpaths : ofComponents true cs ≠ ofComponents true (cs ++ ds) := by
      intro heq
      have hlist := ofComponents_inj h hall heq
      exact hne (List.append_right_eq_self.mp hlist.symm)
    rw [if_neg hpaths, isAbsolute_ofComponents_of_isClean h,
      isAbsolute_ofComponents_of_isClean hall, if_neg (by decide), cleanComponents_ofComponents h,
      targetComponents, cleanComponents_ofComponents hall, isAbsolute_ofComponents_of_isClean hall]
    simp [dropCommon_append, hne, ofComponents]

theorem dropCommon_spec {as bs as' bs' : List Bytes} (h : dropCommon as bs = (as', bs')) :
    ∃ common, as = common ++ as' ∧ bs = common ++ bs' := by
  induction as generalizing bs with
  | nil =>
      rw [dropCommon] at h
      · cases h
        exact ⟨[], rfl, rfl⟩
      · exact nofun
  | cons a as ih =>
      cases bs with
      | nil =>
          cases h
          exact ⟨[], rfl, rfl⟩
      | cons b bs =>
          rw [dropCommon] at h
          split at h
          · rename_i hab
            subst hab
            obtain ⟨common, has, hbs⟩ := ih h
            exact ⟨a :: common, by rw [has, List.cons_append], by rw [hbs, List.cons_append]⟩
          · cases h
            exact ⟨[], rfl, rfl⟩

theorem startsWith_intercalate (sep c : Bytes) (cs : List Bytes) :
    Bytes.startsWith (sep.intercalate (c :: cs)) c = true := by
  rw [Bytes.intercalate_cons]
  exact List.isPrefixOf_iff_prefix.mpr (List.prefix_append _ _)

/-- The end of a clean path that does not begin with a step up has none. -/
theorem IsClean.isProper_of_append (h : IsClean absolute (cs ++ ds))
    (hds : ds.head? ≠ some dotDot) :
    ∀ d ∈ ds, IsProper d := by
  obtain ⟨up, names, heq, hnames, _⟩ := h
  rcases List.append_eq_append_iff.mp heq with ⟨rest, hup, rfl⟩ | ⟨rest, _, rfl⟩
  · cases rest with
    | nil => exact hnames
    | cons c rest =>
        have hc : c ∈ List.replicate up dotDot := by simp [hup]
        exact absurd (congrArg some (List.eq_of_mem_replicate hc)) hds
  · intro d hd
    exact hnames d (List.mem_append_right rest hd)

/-- A way from one path to another that does not begin with two dots only goes down. -/
theorem isProper_of_relative? {base target rel : Bytes} (h : relative? base target = some rel)
    (hdown : rel.startsWith dotDot = false) : ∀ c ∈ components rel, IsProper c := by
  have hup : ∀ ds, rel = [Ascii.slash].intercalate ds → ds.head? ≠ some dotDot := by
    rintro (_ | ⟨d, ds⟩) rfl hd
    · cases hd
    · obtain rfl : d = dotDot := Option.some.inj hd
      rw [startsWith_intercalate] at hdown
      cases hdown
  unfold relative? at h
  split at h
  · obtain rfl := Option.some.inj h
    exact nofun
  split at h
  · cases h
  split at h
  · rename_i down hcommon
    have hrel := (Option.some.inj h).symm
    obtain ⟨common, _, htarget⟩ := dropCommon_spec hcommon
    rw [hrel, components_intercalate]
    unfold targetComponents at htarget
    dsimp only at htarget
    split at htarget
    · -- the target is the directory itself: its only component is dropped
      intro c hc
      obtain ⟨d, hd, hc⟩ := List.mem_flatMap.mp hc
      have hdot : d ∈ [dot] := htarget ▸ List.mem_append_right common hd
      rw [List.mem_singleton.mp hdot] at hc
      cases hc
    · have hproper := (htarget ▸ isClean_cleanComponents target).isProper_of_append (hup down hrel)
      rwa [flatMap_components_of_isProper hproper]
  · split at h
    · cases h
    · exact absurd rfl (hup _ (Option.some.inj h).symm)

end ComponentCompiler.Path
