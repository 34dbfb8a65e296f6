import ComponentCompiler.Component.Compile
import ComponentCompiler.Proofs.BlockFaults
import ComponentCompiler.Proofs.OpenExpressions
import Mathlib

/-!
# What options do to the code of a component

The code of a component depends on its options only through the runtime, the container, the
hooks and whether unsafe markup is rejected: what is logged never shows in it. Rejecting unsafe
markup comes right behind sorting the blocks, so it either is the error that is given or
changes nothing at all.
-/

namespace ComponentCompiler.Template

open Markup (Node)

/-! ## Which stage gives which fault -/

theorem fault_of_classify {nodes : List Node} {name container : Bytes} {d : Diagnostic}
    (h : classify nodes name container = .error d) :
    d.fault ∈ [.unnamedTemplate, .duplicateTemplate, .missingMainTemplate] := by
  rcases classify_cases nodes name container with
    ⟨before, n, after, d', _, _, hreports, herror⟩ | ⟨_, _, found, herror⟩ | ⟨_, _, blocks, hok⟩
  · obtain rfl := Except.error.inj (herror.symm.trans h)
    cases hreports with
    | unnamed _ hfault => simp [hfault]
    | duplicate _ _ hfault => simp [hfault]
  · obtain rfl := Except.error.inj (herror.symm.trans h)
    simp [missingMain]
  · rw [hok] at h
    cases h

theorem fault_of_compile {registry : Registry} {block : Bytes} {n : Node} {depth : Nat}
    {d : Diagnostic} (h : (compile registry block n depth).result = .error d) :
    d.fault = .unbalancedExpression := by
  rw [compile, Outcome.bind_result] at h
  cases hresult : (compileElement registry block n).result with
  | ok call =>
      rw [hresult] at h
      cases h
  | error d' =>
      rw [hresult] at h
      obtain rfl := Except.error.inj h
      obtain ⟨_, _, _, _, _, _, _, hreports⟩ :=
        (settles_compileElement registry block n).exists_of_error hresult
      exact hreports.fault

theorem fault_of_firstUnsafeIn? {block : Bytes} {ns : List Node} {d : Diagnostic}
    (h : firstUnsafeIn? block ns = some d) : d.fault = .unsafeMarkup := by
  rw [firstUnsafeIn?_eq_findSome?] at h
  obtain ⟨_, _, _, _, hm, _⟩ := List.findSome?_eq_some_iff.mp h
  exact (ownFault?_eq_some hm).2.1

end ComponentCompiler.Template

namespace ComponentCompiler.Component

open Markup (Document)
open Template (Block Blocks Registry classify)

/-- A report whose error, if it has one, is another fault. -/
def Avoids {α : Type} (fault : Fault) (x : Report Diagnostic α) : Prop :=
  ∀ d, x.result = .error d → d.fault ≠ fault

variable {fault : Fault}

theorem Avoids.bind {α β : Type} {x : Report Diagnostic α} {f : α → Report Diagnostic β}
    (hx : Avoids fault x) (hf : ∀ a, Avoids fault (f a)) : Avoids fault (x >>= f) := by
  intro d h
  rw [Report.result_bind] at h
  cases hresult : x.result with
  | error d' =>
      rw [hresult] at h
      obtain rfl := Except.error.inj h
      exact hx d' hresult
  | ok a =>
      rw [hresult] at h
      exact hf a d h

theorem avoids_pure {α : Type} (a : α) : Avoids fault (pure a) := nofun

theorem avoids_notes (ns : List Notice) : Avoids fault (Report.notes ns) := nofun

theorem avoids_classify (nodes : List Markup.Node) (name container : Bytes)
    (hfault : fault ∉ [.unnamedTemplate, .duplicateTemplate, .missingMainTemplate]) :
    Avoids fault (Report.ofExcept (classify nodes name container)) := by
  rintro d h rfl
  exact hfault (Template.fault_of_classify h)

theorem avoids_checkedBlocks (blocks : Blocks) (sanitize : Bool) (hfault : fault ≠ .unsafeMarkup) :
    Avoids fault (Report.ofExcept (checkedBlocks blocks sanitize)) := by
  rintro d h rfl
  rw [Report.result_ofExcept, checkedBlocks] at h
  split at h
  · split at h
    · rename_i d' hunsafe
      obtain rfl := Except.error.inj h
      obtain ⟨b, _, hb⟩ := List.exists_of_findSome?_eq_some hunsafe
      exact hfault (Template.fault_of_firstUnsafeIn? hb)
    · cases h
  · cases h

theorem avoids_compileBlock (registry : Registry) (b : Block)
    (hfault : fault ≠ .unbalancedExpression) :
    Avoids fault (compileBlock registry b) := by
  intro d h
  unfold compileBlock at h
  cases hresult : (Template.compile registry b.key b.node 1).result with
  | error d' =>
      simp only [hresult, Except.map, Except.error.injEq] at h
      rw [← h, Template.fault_of_compile hresult]
      exact hfault.symm
  | ok code => simp [hresult, Except.map] at h

theorem avoids_compileSubs (registry : Registry) (bs : List Block)
    (hfault : fault ≠ .unbalancedExpression) : Avoids fault (compileSubs registry bs) := by
  induction bs generalizing registry with
  | nil => exact nofun
  | cons b bs ih =>
      rw [compileSubs]
      refine (avoids_compileBlock registry b hfault).bind fun first => ?_
      exact (ih _).bind fun others => avoids_pure _

/-! ## The stages behind the check of the markup -/

/-- Compiles sorted blocks and weaves their code into the script of a document. -/
def assemble (doc : Document) (name : Bytes) (opts : Options) (blocks : Blocks) :
    Report Diagnostic Bytes := do
  let registry := blocks.subs.foldl (fun r b => r.set b.key []) ({} : Registry)
  let main ← compileBlock registry blocks.main
  let subs ← compileSubs registry blocks.subs
  Report.notes (unusedNotices name (main.2 ++ subs.2) blocks.subs)
  Report.notes (doc.others.map fun n => .ignoredElement name n.tag n.line)
  Report.notes (scriptNotices name doc.scripts)
  let script := behavior doc name
  let code ← Report.ofExcept <|
    (weave script.text main.1 subs.1 opts.activeHooks).mapError (constructorDiagnostic name script)
  return importLine opts.runtime ++ code

theorem compileDocument_eq_assemble (doc : Document) (name : Bytes) (options : Options) :
    compileDocument doc name options =
      (Report.ofExcept (classify doc.templates name options.withDefaults.container) >>=
        fun blocks =>
        Report.notes [.templateBlocks name blocks.keys] >>= fun _ =>
          Report.ofExcept (checkedBlocks blocks options.sanitize) >>= fun _ =>
            assemble doc name options.withDefaults blocks) := rfl

/-- The stage that weaves the script of a document. -/
def weaveStage (doc : Document) (name : Bytes) (opts : Options) (main : Bytes)
    (registry : Registry) :
    Report Diagnostic Bytes :=
  Report.ofExcept ((weave (behavior doc name).text main registry opts.activeHooks).mapError
    (constructorDiagnostic name (behavior doc name)))

theorem avoids_weaveStage (doc : Document) (name : Bytes) (opts : Options) (main : Bytes)
    (registry : Registry) (hfault : fault ≠ .missingConstructorAnchor) :
    Avoids fault (weaveStage doc name opts main registry) := by
  intro d h
  rw [weaveStage, Report.result_ofExcept] at h
  cases hwoven : weave (behavior doc name).text main registry opts.activeHooks with
  | error missing =>
      rw [hwoven] at h
      obtain rfl := Except.error.inj h
      cases missing <;> exact hfault.symm
  | ok code =>
      rw [hwoven] at h
      cases h

theorem avoids_assemble {doc : Document} {name : Bytes} {opts : Options}
    (hfault : fault ≠ .unbalancedExpression)
    (hweave : ∀ main registry, Avoids fault (weaveStage doc name opts main registry))
    (blocks : Blocks) :
    Avoids fault (assemble doc name opts blocks) := by
  unfold assemble
  refine (avoids_compileBlock _ _ hfault).bind fun main => ?_
  refine (avoids_compileSubs _ _ hfault).bind fun subs => ?_
  refine (avoids_notes _).bind fun _ => ?_
  refine (avoids_notes _).bind fun _ => ?_
  refine (avoids_notes _).bind fun _ => ?_
  exact (hweave _ _).bind fun code => avoids_pure _

/-- Only a check of the markup finds it unsafe. -/
theorem avoids_compileDocument_without_sanitizing (doc : Document) (name : Bytes)
    {options : Options} (h : options.sanitize = false) :
    Avoids .unsafeMarkup (compileDocument doc name options) := by
  rw [compileDocument_eq_assemble, h]
  refine (avoids_classify _ _ _ (by decide)).bind fun blocks => ?_
  refine (avoids_notes _).bind fun _ => ?_
  refine avoids_assemble (by decide) (fun main registry => ?_) blocks
  exact avoids_weaveStage doc name options.withDefaults main registry (by decide)

/-! ## Two runs -/

/-- The options agree on all that the code of a component depends on. -/
structure Options.Agree (o o' : Options) : Prop where
  runtime : o.runtime = o'.runtime
  container : o.container = o'.container
  hooks : o.hooks = o'.hooks
  sanitize : o.sanitize = o'.sanitize

theorem assemble_congr {o o' : Options} (hruntime : o.runtime = o'.runtime)
    (hhooks : o.hooks = o'.hooks) (doc : Document) (name : Bytes) (blocks : Blocks) :
    assemble doc name o.withDefaults blocks = assemble doc name o'.withDefaults blocks := by
  have hactive : o.withDefaults.activeHooks = o'.withDefaults.activeHooks := by
    simp only [Options.withDefaults, Options.activeHooks, hhooks]
  have himport : o.withDefaults.runtime = o'.withDefaults.runtime := by
    simp only [Options.withDefaults, hruntime]
  unfold assemble
  rw [hactive, himport]

theorem Options.Agree.compileDocument_eq {o o' : Options} (h : o.Agree o') (doc : Document)
    (name : Bytes) :
    compileDocument doc name o = compileDocument doc name o' := by
  have hcontainer : o.withDefaults.container = o'.withDefaults.container := by
    simp only [Options.withDefaults, h.container]
  rw [compileDocument_eq_assemble, compileDocument_eq_assemble, hcontainer, h.sanitize]
  simp only [assemble_congr h.runtime h.hooks]

/-- The first unsafe markup of a component whose blocks can be sorted, the main block first. -/
def unsafeMarkup? (doc : Document) (name container : Bytes) : Option Diagnostic :=
  match classify doc.templates name container with
  | .error _ => none
  | .ok blocks => (blocks.main :: blocks.subs).findSome? fun b => Template.validate b.node b.key

theorem fault_of_unsafeMarkup? {doc : Document} {name container : Bytes} {d : Diagnostic}
    (h : unsafeMarkup? doc name container = some d) : d.fault = .unsafeMarkup := by
  unfold unsafeMarkup? at h
  split at h
  · cases h
  · obtain ⟨b, _, hb⟩ := List.exists_of_findSome?_eq_some h
    exact Template.fault_of_firstUnsafeIn? hb

section

variable {doc : Document} {name : Bytes} {options : Options}

theorem compileDocument_of_unsafeMarkup? {d : Diagnostic}
    (h : unsafeMarkup? doc name options.withDefaults.container = some d) :
    (compileDocument doc name { options with sanitize := true }).result = .error d := by
  rw [compileDocument_eq_assemble]
  change (Report.ofExcept (classify doc.templates name options.withDefaults.container) >>=
    _).result = _
  unfold unsafeMarkup? at h
  cases hsorted : classify doc.templates name options.withDefaults.container with
  | error fault => simp [hsorted] at h
  | ok blocks =>
      simp only [hsorted] at h
      have hchecked : checkedBlocks blocks true = .error d := by
        rw [checkedBlocks, if_pos rfl, h]
      change (Report.ofExcept (checkedBlocks blocks true) >>= _).result = _
      rw [hchecked]
      rfl

theorem compileDocument_of_unsafeMarkup?_eq_none
    (h : unsafeMarkup? doc name options.withDefaults.container = none) :
    compileDocument doc name { options with sanitize := true } =
      compileDocument doc name { options with sanitize := false } := by
  have hsame : assemble doc name { options with sanitize := true }.withDefaults =
      assemble doc name { options with sanitize := false }.withDefaults :=
    funext fun blocks => assemble_congr rfl rfl doc name blocks
  rw [compileDocument_eq_assemble, compileDocument_eq_assemble, hsame]
  change (Report.ofExcept (classify doc.templates name options.withDefaults.container) >>= _) =
    (Report.ofExcept (classify doc.templates name options.withDefaults.container) >>= _)
  unfold unsafeMarkup? at h
  cases hsorted : classify doc.templates name options.withDefaults.container with
  | error fault => rfl
  | ok blocks =>
      simp only [hsorted] at h
      have hchecked : checkedBlocks blocks true = checkedBlocks blocks false := by
        rw [checkedBlocks, if_pos rfl, h]
        rfl
      change (Report.notes _ >>= fun _ => Report.ofExcept (checkedBlocks blocks true) >>= _) = _
      rw [hchecked]
      rfl

end

/-- Compilations of a document whose options agree on the runtime, the container, the hooks and the
check of the markup are the same, in their code or error and in what they have to say, whatever the
other options are. A compilation that rejects unsafe markup fails with the first that there is in
blocks that could be sorted, and otherwise is the one that does not, which never fails because of
unsafe markup. -/
theorem compileDocument_options (doc : Document) (name : Bytes) :
    (∀ o o' : Options, o.Agree o' → compileDocument doc name o = compileDocument doc name o') ∧
      ∀ o : Options,
        ((∃ d, unsafeMarkup? doc name o.withDefaults.container = some d ∧ d.fault = .unsafeMarkup ∧
            (compileDocument doc name { o with sanitize := true }).result = .error d) ∨
          unsafeMarkup? doc name o.withDefaults.container = none ∧
            compileDocument doc name { o with sanitize := true } =
              compileDocument doc name { o with sanitize := false }) ∧
        ∀ d, (compileDocument doc name { o with sanitize := false }).result = .error d →
          d.fault ≠ .unsafeMarkup := by
  refine ⟨fun o o' h => h.compileDocument_eq doc name, fun o => ⟨?_, ?_⟩⟩
  · cases hunsafe : unsafeMarkup? doc name o.withDefaults.container with
    | some d =>
        exact .inl ⟨d, rfl, fault_of_unsafeMarkup? hunsafe,
          compileDocument_of_unsafeMarkup? hunsafe⟩
    | none => exact .inr ⟨rfl, compileDocument_of_unsafeMarkup?_eq_none hunsafe⟩
  · exact avoids_compileDocument_without_sanitizing doc name rfl

/-- A component with a frame in one of its blocks. -/
def framedDocument : Document where
  templates :=
    [.element (Bytes.lit "template") [⟨Bytes.lit "counter", []⟩] [.text (Bytes.lit "x") 1] 1,
      .element (Bytes.lit "template") [⟨Bytes.lit "panel", []⟩]
        [.element (Bytes.lit "iframe") [] [] 2] 2]

/-- Options that ask for all that can be logged. -/
def loudOptions : Options where
  dev := true
  verbose := true
  extension := Bytes.lit ".component"
  outExtension := Bytes.lit ".mjs"
  outDir := Bytes.lit "dist"
  workers := 4
  logger := some {}

theorem loudOptions_agree : loudOptions.Agree {} := ⟨rfl, rfl, rfl, rfl⟩

set_option maxRecDepth 10000 in
theorem compileDocument_options_framed :
    compileDocument framedDocument (Bytes.lit "Counter") loudOptions =
        compileDocument framedDocument (Bytes.lit "Counter") {} ∧
      (compileDocument framedDocument (Bytes.lit "Counter") {}).result.toOption.isSome ∧
      ∃ d, (compileDocument framedDocument (Bytes.lit "Counter") { sanitize := true }).result =
        .error d ∧
        d.fault = .unsafeMarkup := by
  obtain ⟨hagree, hsanitize⟩ := compileDocument_options framedDocument (Bytes.lit "Counter")
  have hunsafe : (unsafeMarkup? framedDocument (Bytes.lit "Counter")
      ({} : Options).withDefaults.container).isSome := by
    decide +kernel
  refine ⟨hagree _ _ loudOptions_agree, by decide +kernel, ?_⟩
  rcases (hsanitize {}).1 with ⟨d, _, hfault, hd⟩ | ⟨hnone, _⟩
  · exact ⟨d, hd, hfault⟩
  · rw [hnone] at hunsafe
    cases hunsafe

end ComponentCompiler.Component
