import ComponentCompiler.Component.Compile
import ComponentCompiler.Proofs.Registry
import Mathlib

/-!
# Compiling sub-components

Each sub-component is registered with its code before the next one is compiled. Its key is known by
then, and code is no part of what a tag is looked up by, so every block is compiled as if the
registry had the keys alone (`compileSubs_eq`). What comes out is the registry of the keys, with the
code filled in.
-/

namespace ComponentCompiler.Component

open Markup (Document)
open Template

variable {registry registry' : Registry} {b : Block} {bs : List Block}

/-! ## One block -/

theorem compileBlock_eq_ok_iff {code : Bytes} :
    (∃ keys, (compileBlock registry b).result = .ok (code, keys)) ↔
      (Template.compile registry b.key b.node 1).result = .ok code := by
  unfold compileBlock
  generalize Template.compile registry b.key b.node 1 = outcome
  obtain ⟨references, result⟩ := outcome
  cases result with
  | error d => exact iff_of_false (by simp [Except.map]) nofun
  | ok x => simp [Except.map]

/-- Compiling a block asks the registry only which tags it knows. -/
theorem compileBlock_congr (h : ∀ tag, registry.lookup? tag = registry'.lookup? tag) (b : Block) :
    compileBlock registry b = compileBlock registry' b := by
  simp only [compileBlock, Template.compile, compileElement_congr h]

/-! ## Blocks with one registry -/

/-- Compiles blocks one after another with the same registry. -/
def compileBlocks (registry : Registry) :
    List Block → Report Diagnostic (List (Bytes × List Bytes))
  | [] => pure []
  | b :: bs => do
    let first ← compileBlock registry b
    let others ← compileBlocks registry bs
    return first :: others

theorem compileBlocks_congr (h : ∀ tag, registry.lookup? tag = registry'.lookup? tag)
    (bs : List Block) : compileBlocks registry bs = compileBlocks registry' bs := by
  induction bs with
  | nil => rfl
  | cons b bs ih => rw [compileBlocks, compileBlocks, compileBlock_congr h, ih]

theorem compileBlocks_eq_ok_iff {xs : List (Bytes × List Bytes)} :
    (compileBlocks registry bs).result = .ok xs ↔
      List.Forall₂ (fun b x => (compileBlock registry b).result = .ok x) bs xs := by
  induction bs generalizing xs with
  | nil => simp [compileBlocks, eq_comm]
  | cons b bs ih =>
      simp only [compileBlocks, Report.bind_eq_ok, ih, Report.result_pure, Except.ok.injEq,
        List.forall₂_cons_left_iff]
      constructor
      · rintro ⟨x, hx, xs, hxs, rfl⟩
        exact ⟨x, xs, hx, hxs, rfl⟩
      · rintro ⟨x, xs, hx, hxs, rfl⟩
        exact ⟨x, hx, xs, hxs, rfl⟩

/-! ## Filling the registry in -/

/-- The entries that are filled in after compiling blocks. -/
def compiledEntries (bs : List Block) (xs : List (Bytes × List Bytes)) : List Template.Entry :=
  (bs.zip xs).map fun b => ⟨b.1.key, b.2.1⟩

/-- Sub-components whose keys are registered are compiled as with the registry as it stands. -/
theorem compileSubs_eq (hindexed : registry.Indexed)
    (hkeys : ∀ b ∈ bs, registry.Registered b.key) :
    compileSubs registry bs = do
      let xs ← compileBlocks registry bs
      return (registry.setAll (compiledEntries bs xs), xs.flatMap (·.2)) := by
  induction bs generalizing registry with
  | nil => rfl
  | cons b bs ih =>
      obtain ⟨hb, hbs⟩ := List.forall_mem_cons.mp hkeys
      rw [compileSubs, compileBlocks]
      simp only [bind_assoc, pure_bind]
      congr 1
      funext first
      -- the code of the first block changes no look-up of the others
      have hset := hindexed.set b.key first.1
      have hlookup : ∀ tag, (registry.set b.key first.1).lookup? tag = registry.lookup? tag :=
        hset.lookup?_congr hindexed (hindexed.map_key_set hb first.1)
      rw [ih hset fun x hx => hindexed.registered_set_of_registered (hbs x hx) b.key first.1,
        compileBlocks_congr hlookup]
      simp only [bind_assoc, pure_bind]
      rfl

/-- The keys that the blocks of a component are compiled with. -/
def subRegistry (blocks : Blocks) : Registry := Registry.ofKeys (blocks.subs.map (·.key))

theorem foldl_set_subs (blocks : Blocks) :
    blocks.subs.foldl (fun r b => r.set b.key []) ({} : Registry) = subRegistry blocks := by
  rw [subRegistry, Registry.ofKeys, List.foldl_map]

theorem compileSubs_subRegistry (blocks : Blocks) :
    compileSubs (subRegistry blocks) blocks.subs = do
      let xs ← compileBlocks (subRegistry blocks) blocks.subs
      return ((subRegistry blocks).setAll (compiledEntries blocks.subs xs), xs.flatMap (·.2)) :=
  compileSubs_eq (Registry.Indexed.ofKeys _).1 fun _ hb =>
    Registry.Indexed.registered_ofKeys (List.mem_map_of_mem hb)

/-- What the stages of compiling a document give when all of them succeed. -/
theorem compileDocument_stages {doc : Document} {name code : Bytes} {options : Options} :
    (compileDocument doc name options).result = .ok code ↔
      ∃ blocks, classify doc.templates name options.withDefaults.container = .ok blocks ∧
        checkedBlocks blocks options.withDefaults.sanitize = .ok () ∧
        ∃ main, (compileBlock (subRegistry blocks) blocks.main).result = .ok main ∧
        ∃ subs, (compileBlocks (subRegistry blocks) blocks.subs).result = .ok subs ∧
        ∃ woven, weave (behavior doc name).text main.1
            ((subRegistry blocks).setAll (compiledEntries blocks.subs subs))
            options.withDefaults.activeHooks = .ok woven ∧
          code = importLine options.withDefaults.runtime ++ woven := by
  simp only [compileDocument, foldl_set_subs, compileSubs_subRegistry, Report.bind_eq_ok,
    Report.result_ofExcept, Report.result_notes, Report.result_pure, mapError_eq_ok,
    Except.ok.injEq, true_and, Unique.exists_iff, eq_comm (a := code), bind_assoc, pure_bind]

end ComponentCompiler.Component
