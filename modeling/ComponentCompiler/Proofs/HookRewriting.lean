import ComponentCompiler.Proofs.Simulation
import Mathlib

/-!
# Rewriting hooks twice

The text with its hooks rewritten is scanned again. Its tokens are those of the script with `this.`
before each reference (`Rewritten`), whatever slashes the script holds, and so every hook that was a
reference is a member now. A hook that was none has the same token in front of it and the same
bracket around it; the token behind it is the same too, unless that one was a reference, which never
ends a key.
-/

namespace ComponentCompiler.Script

/-! ## The references among rewritten tokens -/

section

variable {hooks : List Bytes} {enclosing : List Bracket} {prev next next' : Option Token}
  {t : Token}

/-- What stands behind a token counts only if it ends a key. -/
theorem isHookReference_of_next (hends : next.any endsKey → next'.any endsKey)
    (h : isHookReference hooks enclosing prev t next' = true) :
    isHookReference hooks enclosing prev t next = true := by
  cases prev with
  | none => exact h
  | some p =>
      simp only [isHookReference, isReference, Option.all_some, Bool.and_eq_true,
        Bool.not_eq_true', Bool.and_eq_false_iff] at h ⊢
      refine ⟨h.1, h.2.1, ?_⟩
      rcases h.2.2 with hbraces | hnext
      · exact .inl hbraces
      · refine .inr (Bool.eq_false_iff.mpr fun hany => ?_)
        rw [hends hany] at hnext
        cases hnext

/-- A token may move, and so may the one in front of it. -/
theorem isHookReference_moveTo (i j : Nat) :
    isHookReference hooks enclosing (prev.map (·.moveTo j)) (t.moveTo i) next =
      isHookReference hooks enclosing prev t next := by
  cases prev <;> rfl

/-- A token that is no reference is passed over. -/
theorem hookReferences_cons {ts : List Token}
    (h : isHookReference hooks enclosing prev t ts.head? = false) :
    hookReferences hooks enclosing prev (t :: ts) =
      hookReferences hooks (bracketsAfter enclosing t) (some t) ts := by
  rw [hookReferences, h]
  rfl

/-- The member of an instance is no reference. -/
theorem isHookReference_member (i : Nat) :
    isHookReference hooks enclosing (some ⟨.punct, i, [Ascii.dot]⟩) t next = false := by
  simp [isHookReference, isReference, Token.isPunct]

/-- Neither is `this`, or a dot. -/
theorem hookReferences_memberTokens (hthis : Bytes.lit "this" ∉ hooks) (n : Nat) (ts : List Token) :
    hookReferences hooks enclosing prev (memberTokens n ++ ts) =
      hookReferences hooks enclosing (some ⟨.punct, n + 4, [Ascii.dot]⟩) ts := by
  have hname : ∀ next, isHookReference hooks enclosing prev ⟨.ident, n, Bytes.lit "this"⟩ next =
      false := by
    intro next
    simp [isHookReference, hthis]
  have hdot : ∀ prev next, isHookReference hooks enclosing prev ⟨.punct, n + 4, [Ascii.dot]⟩ next =
      false := by
    intro prev next
    simp [isHookReference]
  rw [memberTokens, List.cons_append, hookReferences_cons (hname _)]
  exact hookReferences_cons (hdot _ _)

/-- A token is a reference just in case it is found to be one: it stands nowhere else. -/
theorem mem_hookReferences_self {ts : List Token} (ht : t ∉ ts) :
    t ∈ hookReferences hooks enclosing prev (t :: ts) ↔
      isHookReference hooks enclosing prev t ts.head? = true := by
  have hlater : t ∉ hookReferences hooks (bracketsAfter enclosing t) (some t) ts := fun hmem =>
    ht ((hookReferences_sublist _ _ _ _).mem hmem)
  rw [hookReferences]
  split
  · rename_i href
    simp [href]
  · rename_i href
    simp [href, hlater]

/-- Offsets that tell the references among all tokens tell them among the tokens
behind the first. -/
theorem mem_offsets_tail {offsets : List Nat} {ts : List Token} (ht : t ∉ ts)
    (h : ∀ u ∈ t :: ts, u.start ∈ offsets ↔ u ∈ hookReferences hooks enclosing prev (t :: ts)) :
    ∀ u ∈ ts, u.start ∈ offsets ↔
      u ∈ hookReferences hooks (bracketsAfter enclosing t) (some t) ts := by
  intro u hu
  have hne : u ≠ t := fun heq => ht (heq ▸ hu)
  rw [h u (List.mem_cons_of_mem t hu), hookReferences]
  split
  · simp [hne]
  · exact Iff.rfl

end

/-- The token behind a hook still ends a key if it did. -/
theorem Rewritten.any_endsKey {offsets : List Nat} {ts' ts : List Token}
    (h : Rewritten offsets ts' ts) (hnames : ∀ t ∈ ts, t.start ∈ offsets → t.text ≠ Bytes.lit "as")
    (hends : ts.head?.any endsKey) :
    ts'.head?.any endsKey := by
  cases h with
  | nil => exact hends
  | kept i hnot h => exact hends
  | @hook t ts' ts i j hmem hkind h =>
      have hname := hnames t List.mem_cons_self hmem
      simp [endsKey, Token.isPunct, Token.isIdent, hkind, hname] at hends

/-- Among tokens whose references have been rewritten there is no reference. -/
theorem hookReferences_of_rewritten {hooks : List Bytes} (hthis : Bytes.lit "this" ∉ hooks)
    (has : Bytes.lit "as" ∉ hooks) {offsets : List Nat} {ts' ts : List Token}
    (h : Rewritten offsets ts' ts) (hpairwise : ts.Pairwise fun a b => a.start < b.start)
    {enclosing : List Bracket} {prev : Option Token}
    (hoffsets : ∀ t ∈ ts, t.start ∈ offsets ↔ t ∈ hookReferences hooks enclosing prev ts)
    (j : Nat) :
    hookReferences hooks enclosing (prev.map (·.moveTo j)) ts' = [] := by
  -- the tokens are gone through with the same brackets around and the same token in front
  induction h generalizing enclosing prev j with
  | nil => rfl
  | @kept t ts' ts i hnot h ih =>
      obtain ⟨hlt, htail⟩ := List.pairwise_cons.mp hpairwise
      have ht : t ∉ ts := fun hmem => Nat.lt_irrefl _ (hlt t hmem)
      have hbehind := mem_offsets_tail ht hoffsets
      have hends : ts.head?.any endsKey → ts'.head?.any endsKey :=
        h.any_endsKey fun u hu hmem htext =>
          has (htext ▸ (hook_of_mem_hookReferences ((hbehind u hu).mp hmem)).2)
      have href : isHookReference hooks enclosing (prev.map (·.moveTo j)) (t.moveTo i) ts'.head? =
          false := by
        rw [isHookReference_moveTo]
        refine Bool.eq_false_iff.mpr fun href => hnot ?_
        rw [hoffsets t List.mem_cons_self, mem_hookReferences_self ht]
        exact isHookReference_of_next hends href
      rw [hookReferences_cons href]
      exact ih htail hbehind i
  | @hook t ts' ts i k hmem hkind h ih =>
      obtain ⟨hlt, htail⟩ := List.pairwise_cons.mp hpairwise
      have ht : t ∉ ts := fun hmem => Nat.lt_irrefl _ (hlt t hmem)
      rw [hookReferences_memberTokens hthis, hookReferences_cons (isHookReference_member _)]
      exact ih htail (mem_offsets_tail ht hoffsets) i

/-! ## Scanning the rewritten text -/

/-- Comments do not matter. -/
theorem Rewritten.significant {offsets : List Nat} {ts' ts : List Token}
    (h : Rewritten offsets ts' ts) :
    Rewritten offsets (significant ts') (significant ts) := by
  induction h with
  | nil => exact .nil
  | @kept t ts' ts i hnot h ih =>
      cases hs : t.isSignificant with
      | true => simpa [Script.significant, hs] using ih.kept i hnot
      | false => simpa [Script.significant, hs] using ih
  | @hook t ts' ts i j hmem hkind h ih =>
      have hs : t.isSignificant = true := by simp [Token.isSignificant, hkind]
      have hmember : ∀ us, Script.significant (memberTokens j ++ us) =
          memberTokens j ++ Script.significant us := fun us => rfl
      rw [hmember]
      simpa [Script.significant, hs] using ih.hook i j hmem hkind

/-- The script with its hooks rewritten, written out. -/
theorem applySplices_hookSplices (code : Bytes) (hooks : List Bytes) :
    applySplices code (hookSplices code hooks) =
      Traced.text (hooked (hookOffsets code hooks) 0 code) := by
  have hlt : ∀ s ∈ hookSplices code hooks, s.offset < code.length := fun s hs =>
    hookOffsets_lt (List.mem_map_of_mem hs)
  have hend : textsAt (hookSplices code hooks) (0 + code.length) = [] := by
    apply textsAt_eq_nil
    intro s hs
    have := hlt s hs
    omega
  rw [applySplices_eq fun s hs => Nat.le_of_lt (hlt s hs), spreadAll, hend, Traced.insertion_nil,
    List.append_nil, spread_hookSplices]

/-- The tokens of the rewritten script. -/
theorem rewritten_scan (code : Bytes) (hooks : List Bytes) :
    Rewritten (hookOffsets code hooks)
      (significant (scan (applySplices code (hookSplices code hooks))))
      (significant (scan code)) := by
  have hreads : Reads {} 0 code [] (solid (scan code)) := reads_solid {} 0 code
  obtain ⟨ts', hcarries, _, _, hrewritten⟩ := alike_simulation.hooked hreads (.inr ⟨rfl, rfl⟩)
    (fun i hi _ _ => exists_token_of_mem_hookOffsets hi) (.refl []) (fun _ => rfl)
    ⟨⟨rfl, fun _ => rfl⟩, rfl, rfl⟩ 0
  have hsolid : solid (scan (applySplices code (hookSplices code hooks))) = ts' := by
    rw [applySplices_hookSplices]
    exact hcarries.reads.solid_eq
  rw [← significant_solid, hsolid, ← significant_solid (scan code)]
  exact hrewritten.significant

/-- Rewriting the hooks of a script leaves nothing to rewrite, unless `this` or `as` is a hook. -/
theorem hookSplices_idempotent (code : Bytes) (hooks : List Bytes)
    (hthis : Bytes.lit "this" ∉ hooks) (has : Bytes.lit "as" ∉ hooks) :
    hookSplices (applySplices code (hookSplices code hooks)) hooks = [] := by
  have hreads : Reads {} 0 code [] (solid (scan code)) := reads_solid {} 0 code
  have hmem : ∀ t ∈ significant (scan code), t ∈ solid (scan code) := by
    intro t ht
    rw [← significant_solid] at ht
    exact (List.mem_filter.mp ht).1
  have hpairwise : (significant (scan code)).Pairwise fun a b => a.start < b.start := by
    rw [← significant_solid]
    exact hreads.pairwise_start.sublist List.filter_sublist
  have hoffsets : ∀ t ∈ significant (scan code), t.start ∈ hookOffsets code hooks ↔
      t ∈ hookReferences hooks [] none (significant (scan code)) := by
    intro t ht
    simp only [hookOffsets, hookSplices, List.map_map, List.mem_map, Function.comp_apply]
    constructor
    · rintro ⟨u, hu, hstart⟩
      have husig := (hookReferences_sublist _ _ _ _).mem hu
      rwa [← hreads.eq_of_start_eq (hmem u husig) (hmem t ht) hstart]
    · exact fun href => ⟨t, href, rfl⟩
  have hnone :=
    hookReferences_of_rewritten hthis has (rewritten_scan code hooks) hpairwise hoffsets 0
  rw [hookSplices, show (none : Option Token) = none.map (Token.moveTo · 0) from rfl, hnone,
    List.map_nil]

/-- A script with slashes that begin no regular expression because the line has no second one, an
escaped name behind the first of them, and hooks that are keys, names of declarations and members
next to hooks that are references. -/
def slashedScript : Bytes :=
  Bytes.lit "go = /[\\go go/\nlet let go, x.go, {go, let as y, go: go} / go"

theorem hookSplices_idempotent_slashed :
    Bytes.lit "this" ∉ [Bytes.lit "go", Bytes.lit "let"] ∧
    Bytes.lit "as" ∉ [Bytes.lit "go", Bytes.lit "let"] ∧
    hookOffsets slashedScript [Bytes.lit "go", Bytes.lit "let"] = [0, 8, 11, 15, 52, 58] ∧
    hookSplices (applySplices slashedScript
      (hookSplices slashedScript [Bytes.lit "go", Bytes.lit "let"]))
        [Bytes.lit "go", Bytes.lit "let"] =
      [] := by
  refine ⟨by decide, by decide, by decide +kernel, ?_⟩
  exact hookSplices_idempotent slashedScript _ (by decide) (by decide)

end ComponentCompiler.Script
