import ComponentCompiler.Proofs.OptionEffects
import ComponentCompiler.Proofs.ScriptStage
import ComponentCompiler.Proofs.WellFormed
import Mathlib

/-!
# Components without a script

A component without a script gets one that holds nothing but an empty constructor of its name.
Whatever identifier that is, the keyword `function` among them, the constructor is found in it, so
such a component compiles exactly if its templates do.
-/

namespace ComponentCompiler.Component

open Markup (Document)
open Script
open Template (Registry)

/-! ## The script -/

/-- What stands in front of the braces of the script of a component that has none. -/
def emptyFront (name : Bytes) : Bytes :=
  Bytes.lit "export default function " ++ name ++ Bytes.lit "(props, el) "

theorem emptyFront_eq (name : Bytes) :
    emptyFront name = Bytes.lit "export default " ++ signature name := by
  have hfunction : Bytes.lit "export default function " =
      Bytes.lit "export default " ++ Bytes.lit "function " := by decide
  have hparams : Bytes.lit "(props, el) " = parameterList ++ [Ascii.space] := by decide
  simp [emptyFront, signature, hfunction, hparams]

theorem emptyBehavior_eq (name : Bytes) :
    emptyBehavior name =
      emptyFront name ++ [Ascii.openBrace, Ascii.newline, Ascii.closeBrace, Ascii.newline] := by
  simp [emptyBehavior, emptyFront]

theorem length_emptyFront (name : Bytes) : (emptyFront name).length = name.length + 36 := by
  have hexport : (Bytes.lit "export default ").length = 15 := by decide
  rw [emptyFront_eq, List.length_append, length_signature, hexport]
  omega

/-- The tokens of the script are those of its text, whatever the name is. -/
theorem significant_scan_emptyBehavior {name : Bytes} (hname : isName name) :
    significant (scan (emptyBehavior name)) =
      [⟨.ident, 0, Bytes.lit "export"⟩, ⟨.ident, 7, Bytes.lit "default"⟩] ++
        (signatureTokens name 15 ++ [⟨.punct, name.length + 38, [Ascii.closeBrace]⟩]) := by
  have hcode : emptyBehavior name = Bytes.lit "export" ++ Ascii.space :: (Bytes.lit "default" ++
      Ascii.space :: (signature name ++ [Ascii.openBrace] ++
        [Ascii.newline, Ascii.closeBrace, Ascii.newline])) := by
    have hexport : Bytes.lit "export default " =
        Bytes.lit "export" ++ Ascii.space :: (Bytes.lit "default" ++ [Ascii.space]) := by decide
    simp [emptyBehavior_eq, emptyFront_eq, hexport]
  -- the body is read in a context whose innermost brace is the one that opens it
  have hend : ∀ ctx : Context, ctx.braces.head? = some .code → ∀ n, Reads ctx n
      [Ascii.newline, Ascii.closeBrace, Ascii.newline] []
        [⟨.punct, n + 1, [Ascii.closeBrace]⟩] := by
    intro ctx hctx n
    have hclose : lexeme ctx Ascii.closeBrace ([] ++ ([Ascii.newline] ++ [])) = (.punct, 0) :=
      lexeme_of_closeBrace (by simp [hctx]) _
    exact .space (by decide) (.token (by decide) hclose (.space (by decide) (.nil _ _ _)))
  have hreads : Reads {} 0 (emptyBehavior name) [] (⟨.ident, 0, Bytes.lit "export"⟩ ::
      ⟨.ident, 7, Bytes.lit "default"⟩ :: (signatureTokens name 15 ++
        [⟨.punct, name.length + 38, [Ascii.closeBrace]⟩])) := by
    rw [hcode]
    refine .name_cons (by decide) (by decide) rfl (.space (by decide) ?_)
    refine .name_cons (by decide) (by decide) rfl (.space (by decide) ?_)
    refine (reads_signature hname _ _ _).trans ?_
    have hlength : 15 + (signature name ++ [Ascii.openBrace]).length + 1 = name.length + 38 := by
      rw [List.length_append, length_signature, List.length_singleton]
      omega
    rw [← hlength]
    exact hend _ (by rw [braces_after_signatureTokens]; rfl) _
  rw [← significant_solid, scan, hreads.solid_eq, List.cons_append, List.cons_append,
    List.nil_append]
  simp [significant, signatureTokens, Token.isSignificant]

/-- The constructor of the script has the component's name and the two braces that the
script ends with. -/
theorem locate_emptyBehavior {name : Bytes} (hname : isIdentifier name) :
    locate (emptyBehavior name) = .ok {
      name
      params := Bytes.lit "(props, el)"
      opening := (emptyFront name).length
      closing := (emptyFront name).length + 2 } := by
  have hscan := significant_scan_emptyBehavior (isName_of_isIdentifier hname)
  have hexport : Bytes.lit "function" ∉ identifiers
      [⟨.ident, 0, Bytes.lit "export"⟩, ⟨.ident, 7, Bytes.lit "default"⟩] := by decide
  have hheader :=
    firstHeader?_signatureTokens name 15 [⟨.punct, name.length + 38, [Ascii.closeBrace]⟩]
  have hslice : slice (emptyBehavior name) (15 + 9 + name.length) (15 + 9 + name.length + 11) =
      Bytes.lit "(props, el)" := by
    have hslice := slice_append (Bytes.lit "export default function " ++ name) parameterList
      [Ascii.space, Ascii.openBrace, Ascii.newline, Ascii.closeBrace, Ascii.newline]
    have hfunction : (Bytes.lit "export default function ").length = 24 := by decide
    have hparams : parameterList.length = 11 := by decide
    have hend : Bytes.lit "(props, el) " ++
        [Ascii.openBrace, Ascii.newline, Ascii.closeBrace, Ascii.newline] = parameterList ++
        [Ascii.space, Ascii.openBrace, Ascii.newline, Ascii.closeBrace, Ascii.newline] := by decide
    rwa [List.length_append, hfunction, hparams, ← hend, ← List.append_assoc] at hslice
  have hclosing : closingBrace? 0 [⟨.punct, name.length + 38, [Ascii.closeBrace]⟩] =
      some ⟨.punct, name.length + 38, [Ascii.closeBrace]⟩ := by
    have hne : Ascii.closeBrace ≠ Ascii.openBrace := by decide
    simp [closingBrace?, hne]
  have hopening : 15 + (signature name).length = name.length + 36 := by
    rw [length_signature]
    omega
  rw [locate, hscan, firstHeader?_append hexport, hheader]
  simp only [hslice, hclosing, length_emptyFront, hopening]

/-! ## The component -/

variable {doc : Document} {name : Bytes} {options : Options}

theorem behavior_of_scripts_eq_nil (h : doc.scripts = []) :
    behavior doc name = ⟨emptyBehavior name, 0⟩ := by
  rw [behavior, h]
  rfl

theorem exists_weave_emptyBehavior (hname : isIdentifier name) (main : Bytes) (registry : Registry)
    (hooks : List Bytes) : ∃ woven, weave (emptyBehavior name) main registry hooks = .ok woven := by
  rw [weave, locate_emptyBehavior hname]
  exact ⟨_, rfl⟩

theorem avoids_compileDocument_without_script (hname : isIdentifier name)
    (hscripts : doc.scripts = []) :
    Avoids .missingConstructorAnchor (compileDocument doc name options) := by
  rw [compileDocument_eq_assemble]
  refine (avoids_classify _ _ _ (by decide)).bind fun blocks => ?_
  refine (avoids_notes _).bind fun _ => ?_
  refine (avoids_checkedBlocks _ _ (by decide)).bind fun _ => ?_
  refine avoids_assemble (by decide) (fun main registry => ?_) blocks
  obtain ⟨woven, hwoven⟩ :=
    exists_weave_emptyBehavior hname main registry options.withDefaults.activeHooks
  rw [weaveStage, behavior_of_scripts_eq_nil hscripts, hwoven]
  intro d hd
  cases hd

theorem exists_code_iff_of_scripts_eq_nil (hname : isIdentifier name)
    (hscripts : doc.scripts = []) :
    (∃ code, (compileDocument doc name options).result = .ok code) ↔
      TemplatesCompile doc name options := by
  constructor
  · rintro ⟨code, h⟩
    exact templatesCompile_of_result h
  · intro h
    obtain ⟨main, registry, hresult⟩ := h.result_eq
    obtain ⟨woven, hwoven⟩ :=
      exists_weave_emptyBehavior hname main registry options.withDefaults.activeHooks
    rw [behavior_of_scripts_eq_nil hscripts, hwoven] at hresult
    exact ⟨_, hresult⟩

/-- For every identifier, the script that stands in for a missing one has a constructor of that
name, with the two braces that the script holds. So a component without a script never lacks a
constructor, whatever its hooks are, and it has code exactly if its templates compile. -/
theorem compileDocument_without_script {name : Bytes} (hname : isIdentifier name) :
    emptyBehavior name =
      emptyFront name ++ [Ascii.openBrace, Ascii.newline, Ascii.closeBrace, Ascii.newline] ∧
    locate (emptyBehavior name) = .ok {
      name
      params := Bytes.lit "(props, el)"
      opening := (emptyFront name).length
      closing := (emptyFront name).length + 2 } ∧
    ∀ (doc : Document) (options : Options), doc.scripts = [] →
      (∀ d, (compileDocument doc name options).result = .error d →
        d.fault ≠ .missingConstructorAnchor) ∧
      ((∃ code, (compileDocument doc name options).result = .ok code) ↔
        TemplatesCompile doc name options) := by
  refine ⟨emptyBehavior_eq name, locate_emptyBehavior hname, fun doc options hscripts => ⟨?_, ?_⟩⟩
  · exact avoids_compileDocument_without_script hname hscripts
  · exact exists_code_iff_of_scripts_eq_nil hname hscripts

/-- A component that is named by the keyword and refers to another block. -/
def keywordDocument : Document where
  templates :=
    [Template.templateNamed (Bytes.lit "function") [.element (Bytes.lit "props") [] [] 1] 1,
      Template.templateNamed (Bytes.lit "props") [.text (Bytes.lit "x") 2] 2]

set_option maxRecDepth 10000 in
theorem compileDocument_without_script_keyword :
    isIdentifier (Bytes.lit "function") ∧ keywordDocument.scripts = [] ∧
    locate (emptyBehavior (Bytes.lit "function")) =
      .ok ⟨Bytes.lit "function", Bytes.lit "(props, el)", 44, 46⟩ ∧
    (∃ code, (compileDocument keywordDocument
      (Bytes.lit "function") { hooks := some [Bytes.lit "el"] }).result =
      .ok code) ∧
    TemplatesCompile keywordDocument (Bytes.lit "function") { hooks := some [Bytes.lit "el"] } := by
  have hname : isIdentifier (Bytes.lit "function") = true := by decide +kernel
  obtain ⟨_, hlocate, hcompiles⟩ := compileDocument_without_script hname
  have hsome : (compileDocument keywordDocument (Bytes.lit "function")
      { hooks := some [Bytes.lit "el"] }).result.toOption.isSome := by decide +kernel
  have hcode := exists_eq_ok hsome
  exact ⟨hname, rfl, hlocate, hcode, (hcompiles keywordDocument _ rfl).2.mp hcode⟩

end ComponentCompiler.Component
