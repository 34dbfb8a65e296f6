import ComponentCompiler.Proofs.QuotedText
import ComponentCompiler.Render.Expr
import Mathlib

/-!
# Indentation

Printing an expression one level deeper moves every line but the first by one indentation unit and
changes nothing else, as long as the texts that are written as they are stand on one line. Tags and
property keys may hold line breaks, because these are escaped.
-/

namespace ComponentCompiler.Script

theorem newline_not_mem_propertyKey (key : Bytes) : Ascii.newline ∉ propertyKey key := by
  unfold propertyKey
  split
  · rename_i hname
    exact not_mem_of_isIdentifier (by decide) hname
  · exact (isVisible_quote key).newline_not_mem

end ComponentCompiler.Script

namespace ComponentCompiler.Render

/-! ## Indented texts -/

/-- A text with one indentation unit behind every line break. -/
def indented (s : Bytes) : Bytes :=
  s.flatMap fun b => if b = Ascii.newline then Ascii.newline :: indent else [b]

@[simp] theorem indented_nil : indented [] = [] := rfl

@[simp] theorem indented_append (s t : Bytes) : indented (s ++ t) = indented s ++ indented t :=
  List.flatMap_append

theorem indented_of_not_mem {s : Bytes} (h : Ascii.newline ∉ s) : indented s = s := by
  induction s with
  | nil => rfl
  | cons b s ih =>
      obtain ⟨hb, hs⟩ := not_or.mp (mt List.mem_cons.mpr h)
      rw [indented, List.flatMap_cons, if_neg (Ne.symm hb), List.singleton_append]
      exact congrArg (b :: ·) (ih hs)

@[simp] theorem indented_eq_nil_iff {s : Bytes} : indented s = [] ↔ s = [] := by
  cases s with
  | nil => simp
  | cons b s =>
      rw [indented, List.flatMap_cons]
      split <;> simp

@[simp] theorem indented_lineBreak (depth : Nat) :
    indented (lineBreak depth) = lineBreak (depth + 1) := by
  have hunits : Ascii.newline ∉ Bytes.times depth indent := by
    intro hmem
    obtain ⟨unit, hunit, hmem⟩ := List.mem_flatten.mp hmem
    rw [List.eq_of_mem_replicate hunit] at hmem
    exact absurd hmem (by decide)
  calc indented (lineBreak depth)
      = Ascii.newline :: (indent ++ indented (Bytes.times depth indent)) := by
        simp [lineBreak, indented]
    _ = lineBreak (depth + 1) := by rw [indented_of_not_mem hunits]; rfl

theorem indented_intercalate (sep : Bytes) (pieces : List Bytes) :
    indented (sep.intercalate pieces) = (indented sep).intercalate (pieces.map indented) := by
  induction pieces with
  | nil => rfl
  | cons piece pieces ih =>
      cases pieces with
      | nil => simp only [List.map_cons, List.map_nil, List.intercalate_singleton]
      | cons next pieces =>
          simp only [List.map_cons, List.intercalate_cons_cons, indented_append] at ih ⊢
          rw [ih]

/-! ## The parts of an expression -/

theorem indented_printProps {props : List Property} (h : ∀ p ∈ props, Ascii.newline ∉ p.value) :
    indented (printProps props) = printProps props := by
  have hprint : props.map (indented ∘ Property.print) = props.map Property.print := by
    refine List.map_congr_left fun p hp => ?_
    have hkey := indented_of_not_mem (Script.newline_not_mem_propertyKey p.key)
    have hvalue := indented_of_not_mem (h p hp)
    have hcolon : indented (Bytes.lit ": ") = Bytes.lit ": " := by decide
    simp only [Function.comp_apply, Property.print, indented_append, hkey, hvalue, hcolon]
  have hcomma : indented (Bytes.lit ", ") = Bytes.lit ", " := by decide
  have hopen : indented [Ascii.openBrace] = [Ascii.openBrace] := by decide
  have hclose : indented [Ascii.closeBrace] = [Ascii.closeBrace] := by decide
  rw [printProps, indented_append, indented_append, indented_intercalate, List.map_map, hprint,
    hcomma, hopen, hclose]

/-- A children list of items that are printed one level deeper. -/
theorem indented_printChildren (depth : Nat) (items : List Bytes) :
    indented (printChildren depth items) = printChildren (depth + 1) (items.map indented) := by
  cases items with
  | nil =>
      have hempty : indented (Bytes.lit "[]") = Bytes.lit "[]" := by decide
      exact hempty
  | cons item items =>
      have hcomma : indented [Ascii.comma] = [Ascii.comma] := by decide
      have hopen : indented [Ascii.openBracket] = [Ascii.openBracket] := by decide
      have hclose : indented [Ascii.closeBracket] = [Ascii.closeBracket] := by decide
      simp only [printChildren, List.map_cons, indented_append, indented_intercalate, hcomma, hopen,
        hclose, indented_lineBreak, List.map_map, Function.comp_def]

theorem map_indented_commaEnded (items : List Bytes) :
    (commaEnded items).map indented = commaEnded (items.map indented) := by
  have hcomma : indented [Ascii.comma] = [Ascii.comma] := by decide
  induction items with
  | nil => rfl
  | cons item items ih =>
      cases items with
      | nil => rfl
      | cons next items =>
          simp only [List.map_cons, commaEnded, indented_append, hcomma] at ih ⊢
          rw [ih]

theorem indented_printLines (lines : List (Nat × Bytes)) :
    indented (printLines lines) = printLines (lines.map fun l => (l.1 + 1, indented l.2)) := by
  cases lines with
  | nil => rfl
  | cons first lines =>
      rw [printLines, indented_append, List.map_cons, printLines]
      congr 1
      induction lines with
      | nil => rfl
      | cons line lines ih => simp [ih]

theorem itemDepth_succ (depth : Nat) (head : Bytes) :
    itemDepth (depth + 1) head = itemDepth depth head + 1 := by
  unfold itemDepth
  split <;> rfl

/-- A block whose parts are all printed one level deeper. Whether a head or a tail is there
does not change. -/
theorem indented_printBlock (depth : Nat) (head : Bytes) (items : List Bytes) (tail : Bytes) :
    indented (printBlock depth head items tail) =
      printBlock (depth + 1) (indented head) (items.map indented) (indented tail) := by
  have hdepth : itemDepth (depth + 1) (indented head) = itemDepth depth head + 1 := by
    rw [← itemDepth_succ]
    simp [itemDepth]
  have hline : ∀ text : Bytes, (if text = [] then [] else [(depth, text)]).map
      (fun l : Nat × Bytes => (l.1 + 1, indented l.2)) =
        if indented text = [] then [] else [(depth + 1, indented text)] := by
    intro text
    by_cases htext : text = []
    · simp [htext]
    · simp [htext]
  unfold printBlock
  rw [indented_printLines, List.map_append, List.map_append, hline, hline, hdepth,
    ← map_indented_commaEnded, List.map_map, List.map_map]
  rfl

/-! ## Expressions -/

namespace Expr

mutual

/-- The texts that printing an expression writes as they are. -/
def verbatim : Expr → List Bytes
  | hole => []
  | call _ props children => props.map Property.value ++ verbatimAll children
  | factory name props => name :: props.map Property.value
  | raw code => [code]
  | literal quoted => [quoted]
  | block head items tail => head :: tail :: verbatimAll items

def verbatimAll : List Expr → List Bytes
  | [] => []
  | e :: es => verbatim e ++ verbatimAll es

end

mutual

theorem print_succ : ∀ {e : Expr}, (∀ text ∈ e.verbatim, Ascii.newline ∉ text) → ∀ depth,
    e.print (depth + 1) = indented (e.print depth)
  | hole, _, _ => rfl
  | call tag props children, h, depth => by
      obtain ⟨hprops, hchildren⟩ := List.forall_mem_append.mp h
      have hquote := indented_of_not_mem (Script.isVisible_quote tag).newline_not_mem
      have hprops := indented_printProps fun p hp => hprops p.value (List.mem_map_of_mem hp)
      have hname : indented constructorName = constructorName := by decide
      have hopen : indented (Bytes.lit "(") = Bytes.lit "(" := by decide
      have hcomma : indented (Bytes.lit ", ") = Bytes.lit ", " := by decide
      have hclose : indented (Bytes.lit ")") = Bytes.lit ")" := by decide
      simp only [print, indented_append, hquote, hprops, hname, hopen, hcomma, hclose,
        indented_printChildren, printAll_succ hchildren]
  | factory name props, h, depth => by
      obtain ⟨hname, hprops⟩ := List.forall_mem_cons.mp h
      have hname := indented_of_not_mem hname
      have hprops := indented_printProps fun p hp => hprops p.value (List.mem_map_of_mem hp)
      have hopen : indented (Bytes.lit "(") = Bytes.lit "(" := by decide
      have hclose : indented (Bytes.lit ")") = Bytes.lit ")" := by decide
      simp only [print, indented_append, hname, hprops, hopen, hclose]
  | raw code, h, _ => (indented_of_not_mem (h code List.mem_cons_self)).symm
  | literal quoted, h, _ => (indented_of_not_mem (h quoted List.mem_cons_self)).symm
  | block head items tail, h, depth => by
      obtain ⟨hhead, htail, hitems⟩ := by simpa only [verbatim, List.forall_mem_cons] using h
      rw [print, print, indented_printBlock, indented_of_not_mem hhead, indented_of_not_mem htail,
        itemDepth_succ, printAll_succ hitems]

theorem printAll_succ :
    ∀ {es : List Expr}, (∀ text ∈ verbatimAll es, Ascii.newline ∉ text) → ∀ depth,
    printAll es (depth + 1) = (printAll es depth).map indented
  | [], _, _ => rfl
  | e :: es, h, depth => by
      obtain ⟨he, hes⟩ := List.forall_mem_append.mp h
      rw [printAll, printAll, List.map_cons, print_succ he, printAll_succ hes]

end

/-- Where no text that is written as it is holds a line break, an expression is printed one level
deeper by putting an indentation unit behind every line break. So at any depth it is what it is at
the top, indented that often. -/
theorem print_eq_iterate_indented {e : Expr} (h : ∀ text ∈ e.verbatim, Ascii.newline ∉ text)
    (depth : Nat) :
    e.print (depth + 1) = indented (e.print depth) ∧
      e.print depth = indented^[depth] (e.print 0) := by
  refine ⟨print_succ h depth, ?_⟩
  induction depth with
  | zero => rfl
  | succ depth ih => rw [print_succ h, ih, Function.iterate_succ_apply']

/-- A block with a head and one without, below a tag that holds a line break. -/
def nestedBlocks : Expr :=
  .call (Bytes.lit "u\nl") []
    [.block (Bytes.lit "f(") [.factory (Bytes.lit "G") [⟨Bytes.lit "a\nb", Bytes.lit "7"⟩]]
      (Bytes.lit ")"),
      .block [] [.raw (Bytes.lit "x"), .literal (Bytes.lit "''")] []]

theorem print_nestedBlocks :
    (∀ text ∈ nestedBlocks.verbatim, Ascii.newline ∉ text) ∧
    nestedBlocks.print 1 = indented (nestedBlocks.print 0) ∧
    nestedBlocks.print 1 = Bytes.lit "h(\"u\\nl\", {}, [\n        f(\n            G(" ++
      [Ascii.openBrace] ++ Bytes.lit "\"a\\nb\": 7" ++ [Ascii.closeBrace] ++
      Bytes.lit ")\n        ),\n        x,\n        ''\n    ])" := by
  have hlines : ∀ text ∈ nestedBlocks.verbatim, Ascii.newline ∉ text := by decide
  have hdeeper := (print_eq_iterate_indented hlines 0).1
  exact ⟨hlines, hdeeper, hdeeper.trans (by decide +kernel)⟩

end Expr

end ComponentCompiler.Render
