import ComponentCompiler.Proofs.Reading
import ComponentCompiler.Proofs.Splice
import ComponentCompiler.Script.Hooks

/-!
# Hook references as places of a script

The references to hooks are identifiers among the tokens of a script, so their offsets ascend and no
two references share one. A stretch of the script is rewritten by writing `this.` before each byte
at which a reference begins.
-/

namespace ComponentCompiler.Script

open Traced (insertion keptFrom)

/-- What turns a hook into a member of the component instance. -/
def memberOf : Bytes := Bytes.lit "this."

/-- The offsets at which the references to hooks begin. -/
def hookOffsets (code : Bytes) (hooks : List Bytes) : List Nat :=
  (hookSplices code hooks).map Splice.offset

/-- A stretch of code from offset `n` on, with `this.` inserted before each byte at one of the given
offsets and nothing else. -/
def hooked (offsets : List Nat) : Nat → Bytes → List Traced
  | _, [] => []
  | n, b :: x =>
    (if n ∈ offsets then insertion memberOf else []) ++ .kept n b :: hooked offsets (n + 1) x

theorem hooked_append (offsets : List Nat) (n : Nat) (x y : Bytes) :
    hooked offsets n (x ++ y) = hooked offsets n x ++ hooked offsets (n + x.length) y := by
  induction x generalizing n with
  | nil => rfl
  | cons b x ih =>
      simp only [List.cons_append, hooked, ih, List.length_cons, List.append_assoc]
      rw [show n + 1 + x.length = n + (x.length + 1) by omega]

/-- Deleting what was inserted gives the stretch back. -/
@[simp] theorem code_hooked (offsets : List Nat) (n : Nat) (x : Bytes) :
    Traced.code (hooked offsets n x) = x := by
  induction x generalizing n with
  | nil => rfl
  | cons b x ih =>
      rw [hooked, Traced.code_append, Traced.code_cons_kept, ih]
      split <;> simp

/-- A stretch without references stays as it is. -/
theorem hooked_eq_keptFrom {offsets : List Nat} {n : Nat} {x : Bytes}
    (h : ∀ i, n ≤ i → i < n + x.length → i ∉ offsets) : hooked offsets n x = keptFrom n x := by
  induction x generalizing n with
  | nil => rfl
  | cons b x ih =>
      simp only [List.length_cons] at h
      rw [hooked, keptFrom, if_neg (h n (Nat.le_refl n) (by omega)), List.nil_append,
        ih fun i hlo hhi => h i (by omega) (by omega)]

/-- A token of a script that is a reference has `this.` before its first byte only. -/
theorem hooked_token {offsets : List Nat} {n : Nat} {b : UInt8} {tl : Bytes}
    (h : ∀ i, n < i → i < n + (tl.length + 1) → i ∉ offsets) :
    hooked offsets n (b :: tl) =
      (if n ∈ offsets then insertion memberOf else []) ++ keptFrom n (b :: tl) := by
  rw [hooked, keptFrom, hooked_eq_keptFrom fun i hlo hhi => h i (by omega) (by omega)]

/-! ## The references -/

theorem hookReferences_sublist (hooks : List Bytes) (enclosing : List Bracket) (prev : Option Token)
    (ts : List Token) : (hookReferences hooks enclosing prev ts).Sublist ts := by
  induction ts generalizing enclosing prev with
  | nil => exact .slnil
  | cons t ts ih =>
      rw [hookReferences]
      split
      · exact (ih _ _).cons_cons t
      · exact (ih _ _).cons t

theorem hook_of_mem_hookReferences {hooks : List Bytes} {enclosing : List Bracket}
    {prev : Option Token} {ts : List Token} {t : Token}
    (h : t ∈ hookReferences hooks enclosing prev ts) : t.kind = .ident ∧ t.text ∈ hooks := by
  induction ts generalizing enclosing prev with
  | nil => simp [hookReferences] at h
  | cons u ts ih =>
      rw [hookReferences] at h
      split at h
      · rename_i hu
        rcases List.mem_cons.mp h with rfl | h
        · simp only [isHookReference, Bool.and_eq_true, beq_iff_eq, List.contains_iff_mem] at hu
          exact hu.1
        · exact ih h
      · exact ih h

/-- Each reference to a hook is an identifier of the script. -/
theorem exists_token_of_mem_hookOffsets {code : Bytes} {hooks : List Bytes} {i : Nat}
    (h : i ∈ hookOffsets code hooks) :
    ∃ t ∈ solid (scan code), t.start = i ∧ t.kind = .ident := by
  simp only [hookOffsets, hookSplices, List.map_map, List.mem_map, Function.comp_apply] at h
  obtain ⟨t, ht, rfl⟩ := h
  refine ⟨t, ?_, rfl, (hook_of_mem_hookReferences ht).1⟩
  have hmem := (hookReferences_sublist _ _ _ _).mem ht
  rw [← significant_solid] at hmem
  exact (List.mem_filter.mp hmem).1

/-- No reference begins where a token of another class does. -/
theorem start_not_mem_hookOffsets {code : Bytes} {t : Token} (ht : t ∈ solid (scan code))
    (hkind : t.kind ≠ .ident) (hooks : List Bytes) : t.start ∉ hookOffsets code hooks := by
  intro h
  obtain ⟨u, hu, hstart, hident⟩ := exists_token_of_mem_hookOffsets h
  obtain rfl : u = t := (reads_solid {} 0 code).eq_of_start_eq hu ht hstart
  exact hkind hident

theorem hookOffsets_pairwise (code : Bytes) (hooks : List Bytes) :
    (hookOffsets code hooks).Pairwise (· < ·) := by
  have hsolid : (solid (scan code)).Pairwise fun a b => a.start < b.start :=
    (reads_solid {} 0 code).pairwise_start
  have hsig : (significant (scan code)).Pairwise fun a b => a.start < b.start := by
    rw [← significant_solid]
    exact hsolid.sublist List.filter_sublist
  rw [hookOffsets, hookSplices, List.map_map, List.pairwise_map]
  exact hsig.sublist (hookReferences_sublist _ _ _ _)

theorem hookOffsets_lt {code : Bytes} {hooks : List Bytes} {i : Nat}
    (h : i ∈ hookOffsets code hooks) : i < code.length := by
  obtain ⟨t, ht, rfl, _⟩ := exists_token_of_mem_hookOffsets h
  simpa using ((reads_solid {} 0 code).start_lt ht).2

/-- One text at ascending offsets stands once at each of them. -/
theorem textsAt_map_const {offsets : List Nat} (w : Bytes) (h : offsets.Pairwise (· < ·))
    (n : Nat) :
    textsAt (offsets.map (⟨·, w⟩)) n = if n ∈ offsets then w else [] := by
  induction offsets with
  | nil => rfl
  | cons i offsets ih =>
      obtain ⟨hi, hrest⟩ := List.pairwise_cons.mp h
      rw [List.map_cons]
      by_cases hin : i = n
      · subst hin
        have hnot : i ∉ offsets := fun hmem => Nat.lt_irrefl i (hi i hmem)
        have htexts := textsAt_cons_self ⟨i, w⟩ (offsets.map (⟨·, w⟩))
        simp only at htexts
        rw [htexts, ih hrest, if_neg hnot, if_pos List.mem_cons_self, List.append_nil]
      · rw [textsAt_cons_ne _ hin, ih hrest]
        simp [Ne.symm hin]

/-- The splices of hooks, written out. -/
theorem spread_hookSplices (code : Bytes) (hooks : List Bytes) (n : Nat) (x : Bytes) :
    spread (hookSplices code hooks) n x = hooked (hookOffsets code hooks) n x := by
  have hsplices : hookSplices code hooks = (hookOffsets code hooks).map (⟨·, memberOf⟩) := by
    simp [hookOffsets, hookSplices, memberOf, Function.comp_def]
  have htexts : ∀ i, textsAt (hookSplices code hooks) i =
      if i ∈ hookOffsets code hooks then memberOf else [] := by
    intro i
    conv => lhs; rw [hsplices]
    exact textsAt_map_const memberOf (hookOffsets_pairwise code hooks) i
  induction x generalizing n with
  | nil => rfl
  | cons b x ih =>
      rw [spread, hooked, ih, htexts]
      split <;> rfl

end ComponentCompiler.Script
