import ComponentCompiler.Component.Weave
import ComponentCompiler.Proofs.Constructor
import ComponentCompiler.Proofs.Hooks
import Mathlib

/-!
# The layout of a woven script

Weaving collects its insertions in one list and sorts it by offset. `layout` says directly what
comes out: the three stretches of the script around the braces of the constructor, with their hooks
rewritten, and the wrapper's texts between them. Nothing of the script is lost or moved.
-/

namespace ComponentCompiler.Component

open Script
open Script.Traced (insertion)

/-- The line break that the render ending starts with, unless the code before it ends in one. -/
def freshLine (before : Bytes) : Bytes :=
  if before.getLast? = some Ascii.newline then [] else [Ascii.newline]

/-- A woven script, byte by byte: the code up to the opening brace of the constructor, the wrapper's
opening, the body, the factories and the main expression, the wrapper's closing, and the code from
the closing brace on. -/
def layout (code main : Bytes) (entries : List Template.Entry) (hooks : List Bytes)
    (c : Constructor) : List Traced :=
  let refs := hookOffsets code hooks
  hooked refs 0 (code.take (c.opening + 1)) ++
    insertion
      (Bytes.lit "\n    return new Component(props, el, function () " ++ [Ascii.openBrace]) ++
    hooked refs (c.opening + 1) (slice code (c.opening + 1) c.closing) ++
    insertion (freshLine (code.take c.closing)) ++
    insertion (entries.flatMap fun e =>
      Bytes.lit "    const " ++ e.key ++ Bytes.lit " = (props) => " ++ e.expr ++ Bytes.lit ";\n") ++
    insertion (Bytes.lit "\n    return (" ++ main ++ Bytes.lit ");\n") ++
    insertion (Bytes.lit "\n    " ++ [Ascii.closeBrace] ++ Bytes.lit ");\n") ++
    hooked refs c.closing (code.drop c.closing)

/-! ## The texts of the wrapper -/

theorem wrapperOpening_eq :
    wrapperOpening =
      Bytes.lit "\n    return new Component(props, el, function () " ++ [Ascii.openBrace] := by
  decide +kernel

theorem wrapperClosing_eq :
    wrapperClosing = Bytes.lit "\n    " ++ [Ascii.closeBrace] ++ Bytes.lit ");\n" := by
  decide

theorem factoryLine_eq (e : Template.Entry) :
    factoryLine e =
      Bytes.lit "    const " ++ e.key ++ Bytes.lit " = (props) => " ++ e.expr ++
        Bytes.lit ";\n" := by
  have hconst : Render.indent ++ Bytes.lit "const " = Bytes.lit "    const " := by decide
  rw [factoryLine, hconst]

theorem returnLine_eq (main : Bytes) :
    returnLine main = Bytes.lit "\n    return (" ++ main ++ Bytes.lit ");\n" := by
  have hreturn : Bytes.lit "\n" ++ Render.indent ++ Bytes.lit "return (" =
      Bytes.lit "\n    return (" := by decide
  rw [returnLine, hreturn]

/-- The layout in the texts that weaving inserts. -/
theorem layout_eq_wrapper (code main : Bytes) (entries : List Template.Entry) (hooks : List Bytes)
    (c : Constructor) :
    layout code main entries hooks c =
      hooked (hookOffsets code hooks) 0 (code.take (c.opening + 1)) ++ insertion wrapperOpening ++
        hooked (hookOffsets code hooks) (c.opening + 1) (slice code (c.opening + 1) c.closing) ++
        insertion (freshLine (code.take c.closing)) ++ insertion (entries.flatMap factoryLine) ++
        insertion (returnLine main) ++ insertion wrapperClosing ++
        hooked (hookOffsets code hooks) c.closing (code.drop c.closing) := by
  rw [layout, wrapperOpening_eq, wrapperClosing_eq, returnLine_eq, funext factoryLine_eq]

/-! ## Cutting the script -/

/-- A splice at one offset and two at a later one cut the code in three. -/
theorem spreadAll_wrapper {x y : Bytes} {m n : Nat} (rest : List Splice) (z w₁ w₂ w₃ : Bytes)
    (hm : m = 0 + x.length) (hn : n = m + y.length) :
    spreadAll ([⟨m, w₁⟩, ⟨n, w₂⟩, ⟨n, w₃⟩] ++ rest) 0 (x ++ (y ++ z)) =
      spread rest 0 x ++ insertion w₁ ++
        (spread rest m y ++ insertion w₂ ++ (insertion w₃ ++ spreadAll rest n z)) := by
  simp only [List.cons_append, List.nil_append]
  rw [spreadAll_cons _ _ hm, spread_cons_outside _ (by simp only; omega),
    spread_cons_outside _ (by simp only; omega), spreadAll_cons _ _ hn,
    spread_cons_outside _ (by simp only; omega), spreadAll_cons_same]

theorem renderEnding_eq (before main : Bytes) (registry : Template.Registry) :
    renderEnding before main registry =
      freshLine before ++ registry.entries.flatMap factoryLine ++ returnLine main := rfl

section

variable {code : Bytes} {c : Constructor}

theorem take_opening (cut : Cut code c) :
    code.take (c.opening + 1) = cut.front ++ [Ascii.openBrace] := by
  calc
    code.take (c.opening + 1) =
        (cut.front ++ Ascii.openBrace :: (cut.body ++ Ascii.closeBrace :: cut.back)).take
          (cut.front.length + 1) := by rw [← cut.code_eq, cut.opening_eq]
    _ = cut.front ++ [Ascii.openBrace] := by simp [List.take_append, List.take_of_length_le]

theorem drop_opening (cut : Cut code c) :
    code.drop (c.opening + 1) = cut.body ++ Ascii.closeBrace :: cut.back := by
  calc
    code.drop (c.opening + 1) =
        (cut.front ++ Ascii.openBrace :: (cut.body ++ Ascii.closeBrace :: cut.back)).drop
          (cut.front.length + 1) := by rw [← cut.code_eq, cut.opening_eq]
    _ = cut.body ++ Ascii.closeBrace :: cut.back := by simp [List.drop_append]

theorem slice_body (cut : Cut code c) : slice code (c.opening + 1) c.closing = cut.body := by
  have hlen : c.closing - (c.opening + 1) = cut.body.length := by
    rw [cut.closing_eq, cut.opening_eq]
    omega
  rw [slice, drop_opening cut, hlen, List.take_left]

theorem drop_closing (cut : Cut code c) : code.drop c.closing = Ascii.closeBrace :: cut.back := by
  have hlen : c.closing = c.opening + 1 + cut.body.length := by
    rw [cut.closing_eq, cut.opening_eq]
  rw [hlen, ← List.drop_drop, drop_opening cut, List.drop_left]

/-- No reference to a hook begins at a brace of the constructor. -/
theorem braces_not_mem_hookOffsets (cut : Cut code c) (hooks : List Bytes) :
    c.opening ∉ hookOffsets code hooks ∧ c.closing ∉ hookOffsets code hooks :=
  ⟨start_not_mem_hookOffsets (t := c.openToken) (by rw [cut.solid_eq]; simp) (by simp) hooks,
    start_not_mem_hookOffsets (t := c.closeToken) (by rw [cut.solid_eq]; simp) (by simp) hooks⟩

/-- The splices of a woven script, written out. -/
theorem spreadAll_weave (cut : Cut code c) (main : Bytes) (registry : Template.Registry)
    (hooks : List Bytes) :
    spreadAll (wrapperSplices code c main registry ++ hookSplices code hooks) 0 code =
      layout code main registry.entries hooks c := by
  have hfront : c.opening + 1 = 0 + (code.take (c.opening + 1)).length := by
    rw [take_opening cut, cut.opening_eq]
    simp
  have hbody : c.closing = c.opening + 1 + (slice code (c.opening + 1) c.closing).length := by
    rw [slice_body cut, cut.opening_eq, cut.closing_eq]
  have hcode : code.take (c.opening + 1) ++
      (slice code (c.opening + 1) c.closing ++ code.drop c.closing) = code := by
    rw [take_opening cut, slice_body cut, drop_closing cut]
    simpa using cut.code_eq.symm
  have hend : textsAt (hookSplices code hooks) (c.closing + (code.drop c.closing).length) = [] := by
    apply textsAt_eq_nil
    intro s hs heq
    have hlt : s.offset < code.length := hookOffsets_lt (List.mem_map_of_mem hs)
    rw [List.length_drop] at heq
    omega
  have hspread := spreadAll_wrapper (hookSplices code hooks) (code.drop c.closing) wrapperOpening
    (renderEnding (code.take c.closing) main registry) wrapperClosing hfront hbody
  rw [hcode] at hspread
  rw [wrapperSplices, hspread, spreadAll, hend]
  simp only [spread_hookSplices, layout_eq_wrapper, renderEnding_eq, Traced.insertion_append,
    Traced.insertion_nil, List.append_nil, List.append_assoc]

/-- Deleting the inserted texts gives the script back. -/
theorem code_layout (cut : Cut code c) (main : Bytes) (entries : List Template.Entry)
    (hooks : List Bytes) : Traced.code (layout code main entries hooks c) = code := by
  simp only [layout, Traced.code_append, code_hooked, Traced.code_insertion, List.append_nil]
  rw [take_opening cut, slice_body cut, drop_closing cut]
  simpa using cut.code_eq.symm

end

/-- A located script weaves to its layout. -/
theorem weave_of_cut {code : Bytes} {c : Constructor} (h : locate code = .ok c) (cut : Cut code c)
    (main : Bytes) (registry : Template.Registry) (hooks : List Bytes) :
    weave code main registry hooks =
      .ok (Traced.text (layout code main registry.entries hooks c)) := by
  have hlt : c.closing < code.length := by
    have hlen := congrArg List.length (drop_closing cut)
    simp at hlen
    omega
  have hopen : c.opening + 1 ≤ c.closing := by
    rw [cut.opening_eq, cut.closing_eq]
    omega
  have hoffsets : ∀ s ∈ wrapperSplices code c main registry ++ hookSplices code hooks,
      s.offset ≤ code.length := by
    intro s hs
    rcases List.mem_append.mp hs with hs | hs
    · simp only [wrapperSplices, List.mem_cons, List.not_mem_nil, or_false] at hs
      rcases hs with rfl | rfl | rfl
      · simp only; omega
      · simp only; omega
      · simp only; omega
    · exact Nat.le_of_lt (hookOffsets_lt (List.mem_map_of_mem hs))
  rw [weave, h, ← spreadAll_weave cut, ← applySplices_eq hoffsets]
  rfl

/-- Weaving fails exactly when the constructor is not found, and with the same fault. Otherwise it
gives the layout, which holds the script unchanged; a hook right behind the opening brace is
rewritten behind the wrapper's opening. -/
theorem weave_eq_layout (code main : Bytes) (registry : Template.Registry) (hooks : List Bytes) :
    (∀ fault, weave code main registry hooks = .error fault ↔ locate code = .error fault) ∧
    (∀ c, locate code = .ok c →
      c.opening < c.closing ∧ c.closing < code.length ∧
      weave code main registry hooks =
        .ok (Traced.text (layout code main registry.entries hooks c)) ∧
      Traced.code (layout code main registry.entries hooks c) = code ∧
      (c.opening + 1 ∈ hookOffsets code hooks →
        hooked (hookOffsets code hooks) 0 (code.take (c.opening + 1)) ++
          insertion (Bytes.lit "\n    return new Component(props, el, function () " ++
            [Ascii.openBrace]) ++
          insertion (Bytes.lit "this.") <+: layout code main registry.entries hooks c)) := by
  refine ⟨fun fault => ?_, fun c hc => ?_⟩
  · cases hloc : locate code with
    | error e => simp [weave, hloc, Except.map]
    | ok c => simp [weave, hloc, Except.map]
  · obtain ⟨cut⟩ := locate_cut hc
    have hlen := congrArg List.length (drop_closing cut)
    simp only [List.length_drop, List.length_cons] at hlen
    refine ⟨?_, by omega, weave_of_cut hc cut main registry hooks,
      code_layout cut main registry.entries hooks, fun href => ?_⟩
    · rw [cut.opening_eq, cut.closing_eq]
      omega
    · have hne : c.opening + 1 ≠ c.closing := fun heq =>
        (braces_not_mem_hookOffsets cut hooks).2 (heq ▸ href)
      cases hslice : slice code (c.opening + 1) c.closing with
      | nil =>
          rw [slice_body cut] at hslice
          have := cut.closing_eq
          rw [hslice, List.length_nil, ← cut.opening_eq] at this
          exact absurd this.symm hne
      | cons b x =>
          simp only [layout, hslice, hooked, if_pos href, List.append_assoc]
          exact List.prefix_append_right_inj _ |>.mpr
            (List.prefix_append_right_inj _ |>.mpr (List.prefix_append _ _))

/-- A script with a hook right behind the brace of its constructor. -/
def adjacentScript : Bytes := Bytes.lit "export default function (props, el) {go();}"

/-- Two sub-components, the first of which refers to the second. -/
def adjacentRegistry : Template.Registry :=
  (({} : Template.Registry).set (Bytes.lit "Row") (Bytes.lit "h(\"tr\", {}, [Cell({})])")).set
    (Bytes.lit "Cell") (Bytes.lit "h(\"td\", {}, [])")

theorem weave_eq_layout_adjacent :
    locate adjacentScript = .ok ⟨[], Bytes.lit "(props, el)", 36, 42⟩ ∧
      37 ∈ hookOffsets adjacentScript [Bytes.lit "go"] ∧
      weave adjacentScript (Bytes.lit "Row({})") adjacentRegistry [Bytes.lit "go"] = .ok
        (Bytes.lit "export default function (props, el) " ++ [Ascii.openBrace] ++
          Bytes.lit "\n    return new Component(props, el, function () " ++ [Ascii.openBrace] ++
          Bytes.lit "this.go();\n" ++
          Bytes.lit "    const Row = (props) => h(\"tr\", {}, [Cell({})]);\n" ++
          Bytes.lit "    const Cell = (props) => h(\"td\", {}, []);\n" ++
          Bytes.lit "\n    return (Row({}));\n" ++
          Bytes.lit "\n    " ++ [Ascii.closeBrace] ++ Bytes.lit ");\n" ++ [Ascii.closeBrace]) := by
  have hlocate : locate adjacentScript = .ok ⟨[], Bytes.lit "(props, el)", 36, 42⟩ := by cbv
  have href : 37 ∈ hookOffsets adjacentScript [Bytes.lit "go"] := by decide +kernel
  obtain ⟨_, _, hweave, _⟩ :=
    (weave_eq_layout adjacentScript (Bytes.lit "Row({})") adjacentRegistry [Bytes.lit "go"]).2
      _ hlocate
  refine ⟨hlocate, href, hweave.trans (congrArg _ ?_)⟩
  decide +kernel

end ComponentCompiler.Component
