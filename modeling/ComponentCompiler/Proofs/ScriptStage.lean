import ComponentCompiler.Proofs.BlockOrder
import Mathlib

/-!
# The script is the last stage

The templates of a component are sorted, checked and compiled before its script is looked at. Once
they all have code, the script alone decides what becomes of the component
(`TemplatesCompile.result_eq`).
-/

namespace ComponentCompiler.Component

open Markup (Document)
open Template (Block Registry classify)

variable {doc : Document} {name : Bytes} {options : Options}

/-- The templates of a document compile: its blocks can be sorted, they pass the check of their
markup if there is one, and each of them has code. -/
def TemplatesCompile (doc : Document) (name : Bytes) (options : Options) : Prop :=
  ∃ blocks, classify doc.templates name options.withDefaults.container = .ok blocks ∧
    (options.sanitize → ∀ b ∈ blocks.main :: blocks.subs, Template.validate b.node b.key = none) ∧
    ∀ b ∈ blocks.main :: blocks.subs, ∃ code,
      (Template.compile (subRegistry blocks) b.key b.node 1).result = .ok code

theorem exists_compileBlock_iff {registry : Registry} {b : Block} :
    (∃ x, (compileBlock registry b).result = .ok x) ↔
      ∃ code, (Template.compile registry b.key b.node 1).result = .ok code := by
  simp only [← compileBlock_eq_ok_iff, Prod.exists]

theorem exists_compileBlocks_iff {registry : Registry} {bs : List Block} :
    (∃ xs, (compileBlocks registry bs).result = .ok xs) ↔
      ∀ b ∈ bs, ∃ code, (Template.compile registry b.key b.node 1).result = .ok code := by
  simp only [compileBlocks_eq_ok_iff, ← exists_compileBlock_iff]
  induction bs with
  | nil => simp
  | cons b bs ih =>
      rw [List.forall_mem_cons, ← ih]
      constructor
      · rintro ⟨_, _ | ⟨hx, hxs⟩⟩
        exact ⟨⟨_, hx⟩, _, hxs⟩
      · rintro ⟨⟨x, hx⟩, xs, hxs⟩
        exact ⟨x :: xs, .cons hx hxs⟩

/-- A component that has code has templates that compile. -/
theorem templatesCompile_of_result {code : Bytes}
    (h : (compileDocument doc name options).result = .ok code) :
    TemplatesCompile doc name options := by
  obtain ⟨blocks, hblocks, hchecked, main, hmain, subs, hsubs, _⟩ := compileDocument_stages.mp h
  refine ⟨blocks, hblocks, checkedBlocks_eq_ok_iff.mp hchecked, ?_⟩
  rw [List.forall_mem_cons]
  exact ⟨exists_compileBlock_iff.mp ⟨main, hmain⟩, exists_compileBlocks_iff.mp ⟨subs, hsubs⟩⟩

/-- Where the templates compile, the component has the code that is woven into its script, or the
fault that its script has. -/
theorem TemplatesCompile.result_eq (h : TemplatesCompile doc name options) :
    ∃ main registry, (compileDocument doc name options).result =
      ((weave (behavior doc name).text main registry options.withDefaults.activeHooks).mapError
        (constructorDiagnostic name (behavior doc name))).map
          (importLine options.withDefaults.runtime ++ ·) := by
  obtain ⟨blocks, hblocks, hclean, hcodes⟩ := h
  rw [List.forall_mem_cons] at hcodes
  have hchecked : checkedBlocks blocks options.withDefaults.sanitize = .ok () :=
    checkedBlocks_eq_ok_iff.mpr hclean
  obtain ⟨main, hmain⟩ := exists_compileBlock_iff.mpr hcodes.1
  obtain ⟨subs, hsubs⟩ := exists_compileBlocks_iff.mpr hcodes.2
  refine ⟨main.1, (subRegistry blocks).setAll (compiledEntries blocks.subs subs), ?_⟩
  simp only [compileDocument, Report.result_bind, Report.result_ofExcept, Report.result_notes,
    Report.result_pure, hblocks, hchecked, foldl_set_subs, compileSubs_subRegistry, hmain, hsubs,
    Except.bind]
  cases weave (behavior doc name).text main.1 _ options.withDefaults.activeHooks <;> rfl

end ComponentCompiler.Component
