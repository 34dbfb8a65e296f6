import ComponentCompiler.Proofs.BraceStack
import ComponentCompiler.Proofs.ScriptElements
import ComponentCompiler.Proofs.ScriptStage
import Mathlib

/-!
# The line of an open constructor

A constructor whose body is never closed is reported on the line of its opening brace, counted from
the line of the script element. That is the line on which the start tag of the script begins, and
the text of the script begins where the start tag ends. So the line is that of the brace exactly if
the start tag stands on one line.
-/

namespace ComponentCompiler.Script

/-- The brace of a header stands where its token says. -/
theorem exists_eq_take_brace {code : Bytes} {h : Header}
    (hheader : FirstHeader (significant (scan code)) h) :
    ∃ back, code = code.take h.brace.start ++ Ascii.openBrace :: back := by
  obtain ⟨before, body, hscan, hbrace, _, _⟩ :=
    closingBrace?_of_header (firstHeader?_eq_some_iff.mpr hheader)
  have hscans := scans_scan code
  rw [hscan] at hscans
  obtain ⟨front, _, _, back, _, hcode, hstart, _⟩ := hscans.split
  rw [(Token.isPunct_iff.mp hbrace).2] at hcode
  refine ⟨back, ?_⟩
  rw [hstart, Nat.zero_add]
  nth_rewrite 2 [hcode]
  rw [List.take_left, hcode]
  rfl

end ComponentCompiler.Script

namespace ComponentCompiler.Markup

open ComponentCompiler.Markup.Lex (scriptName rawData unifyNewlines)

/-! ## Lines of a source and lines of a script -/

theorem newlines_append (s t : Bytes) : Bytes.newlines (s ++ t) = s.newlines + t.newlines :=
  List.count_append

theorem newlinesOf_eq (xs : List Lexeme) : newlinesOf xs = Bytes.newlines (xs.flatMap (·.raw)) := by
  induction xs with
  | nil => rfl
  | cons x xs ih => rw [newlinesOf, ih, List.flatMap_cons, newlines_append]

/-- Every carriage return is the first half of a line break. -/
def PairedReturns (s : Bytes) : Prop :=
  ∀ front back, s = front ++ Ascii.carriageReturn :: back → back.head? = some Ascii.newline

/-- What a byte of a script becomes; `next` is the byte behind it. -/
def scriptPiece (c : UInt8) (next : Option UInt8) : Bytes :=
  if c = Ascii.carriageReturn then if next = some Ascii.newline then [] else [Ascii.newline]
  else if c = Ascii.nul then Utf8.encodeCode 0xfffd else [c]

theorem rawData_cons (c : UInt8) (w : Bytes) :
    rawData scriptName (c :: w) = scriptPiece c w.head? ++ rawData scriptName w := by
  have hdata : ∀ w, rawData scriptName w = (unifyNewlines w).flatMap fun c =>
      if c = Ascii.nul then Utf8.encodeCode 0xfffd else [c] := by
    intro w
    rw [rawData, if_neg (by decide)]
  rw [hdata, hdata, unifyNewlines, scriptPiece]
  by_cases hreturn : c = Ascii.carriageReturn
  · by_cases hnext : w.head? = some Ascii.newline
    · simp [hreturn, hnext]
    · have hnul : Ascii.newline ≠ Ascii.nul := by decide
      simp [hreturn, hnext, hnul]
  · simp [hreturn]

theorem not_mem_scriptPiece {c : UInt8} (hc : c ≠ Ascii.openBrace) (next : Option UInt8) :
    Ascii.openBrace ∉ scriptPiece c next := by
  unfold scriptPiece
  split
  · split <;> decide
  · split
    · decide
    · simpa using Ne.symm hc

/-- A brace in the text of a script is one in the source, and what stands in front of it
is read alike. -/
theorem exists_split_of_rawData {w front back : Bytes}
    (h : rawData scriptName w = front ++ Ascii.openBrace :: back) :
    ∃ front' back', w = front' ++ Ascii.openBrace :: back' ∧ rawData scriptName front' = front := by
  induction w generalizing front with
  | nil => cases front <;> cases h
  | cons c w ih =>
      by_cases hfront : c = Ascii.openBrace ∧ front = []
      · obtain ⟨rfl, rfl⟩ := hfront
        exact ⟨[], w, rfl, rfl⟩
      · rw [rawData_cons] at h
        -- the brace stands behind what the first byte becomes
        have hbehind : ∃ more, front = scriptPiece c w.head? ++ more ∧
            rawData scriptName w = more ++ Ascii.openBrace :: back := by
          rcases List.append_eq_append_iff.mp h with hmore | ⟨piece, hpiece, hrest⟩
          · exact hmore
          · cases piece with
            | nil => exact ⟨[], by simpa using hpiece.symm, hrest.symm⟩
            | cons b piece =>
                obtain rfl : Ascii.openBrace = b := (List.cons.inj hrest).1
                have hc : c = Ascii.openBrace := by
                  by_contra hc
                  exact not_mem_scriptPiece hc w.head? (by simp [hpiece])
                subst hc
                have hsingle : scriptPiece Ascii.openBrace w.head? = [Ascii.openBrace] := rfl
                rw [hsingle] at hpiece
                cases front with
                | nil => exact absurd ⟨rfl, rfl⟩ hfront
                | cons f front => simp at hpiece
        obtain ⟨more, rfl, hmore⟩ := hbehind
        obtain ⟨front', back', rfl, hdata⟩ := ih hmore
        refine ⟨c :: front', back', rfl, ?_⟩
        rw [rawData_cons, hdata]
        cases front' with
        | nil => rfl
        | cons f front' => rfl

theorem PairedReturns.of_append {front s back : Bytes} (h : PairedReturns (front ++ (s ++ back)))
    (hback : back.head? ≠ some Ascii.newline) : PairedReturns s := by
  rintro front' back' rfl
  have hnext := h (front ++ front') (back' ++ back) (by simp)
  cases back' with
  | nil => exact absurd hnext hback
  | cons b back' => exact hnext

theorem newlines_rawData {w : Bytes} (h : PairedReturns w) :
    (rawData scriptName w).newlines = w.newlines := by
  induction w with
  | nil => rfl
  | cons c w ih =>
      have hw : PairedReturns w :=
        fun front back hsplit => h (c :: front) back (by rw [hsplit, List.cons_append])
      have hpiece : (scriptPiece c w.head?).count Ascii.newline = [c].count Ascii.newline := by
        unfold scriptPiece
        split
        · rename_i hreturn
          rw [if_pos (h [] w (by rw [hreturn]; rfl)), hreturn]
          decide
        · split
          · rename_i hnul
            rw [hnul]
            decide
          · rfl
      have hrest := ih hw
      rw [Bytes.newlines, Bytes.newlines] at hrest
      rw [Bytes.newlines, Bytes.newlines, rawData_cons, List.count_append, hpiece, hrest,
        ← List.count_append, List.singleton_append]

/-- The place of a brace of a script in the source. -/
theorem ScriptAt.exists_brace {src : Bytes} {pre : List Lexeme} {start : Lexeme}
    {written front back : Bytes} {n : Node} (hat : ScriptAt src pre start written n)
    (h : n.textContent = front ++ Ascii.openBrace :: back) :
    ∃ front' back', src = pre.flatMap (·.raw) ++
      (start.raw ++ (front' ++ Ascii.openBrace :: back')) ∧
      rawData scriptName front' = front ∧
        (PairedReturns src → front.newlines = front'.newlines) := by
  obtain ⟨rest, hsrc⟩ := hat.exists_source_eq
  obtain ⟨front', back', rfl, rfl⟩ := exists_split_of_rawData (hat.text_eq.symm.trans h)
  have hsource : src = pre.flatMap (·.raw) ++
      (start.raw ++ (front' ++ Ascii.openBrace :: (back' ++ rest))) := by simpa using hsrc
  refine ⟨front', back' ++ rest, hsource, rfl, fun hpaired => newlines_rawData ?_⟩
  have hbrace : (Ascii.openBrace :: (back' ++ rest)).head? ≠ some Ascii.newline := by
    rw [List.head?_cons]
    decide
  rw [hsource, ← List.append_assoc] at hpaired
  exact hpaired.of_append hbrace

end ComponentCompiler.Markup

namespace ComponentCompiler.Component

open Markup (Node Lexeme ScriptAt PairedReturns endLine)
open ComponentCompiler.Markup.Lex (scriptName rawData)
open Script (Header FirstHeader openers scan significant)

variable {src name : Bytes} {options : Options} {n : Node} {h : Header}

/-! ## The reported line -/

/-- The behaviour of a component is the text of its first script element, with the line of that
element. -/
theorem behavior_parseDocument
    (hscript : (Markup.parse src).find? (fun n => n.isElement && n.tag == scriptName) = some n) :
    behavior (Markup.parseDocument src) name = ⟨n.textContent, n.line⟩ := by
  rw [← List.head?_filter] at hscript
  rw [behavior, Markup.parseDocument, Markup.Document.ofNodes, List.headD_eq_head?_getD,
    List.head?_map]
  exact congrArg
    (fun o : Option Node => (o.map fun n => (⟨n.textContent, n.line⟩ : Markup.Script)).getD _)
    hscript

/-- An open body is reported on the line of the script and the newlines in front of its brace. -/
theorem exists_unclosed_of_open (hheader : FirstHeader (significant (scan n.textContent)) h)
    (hopen : ⟨.code, h.brace.start⟩ ∈ openers [] (scan n.textContent))
    (htemplates : TemplatesCompile (Markup.parseDocument src) name options)
    (hscript : behavior (Markup.parseDocument src) name = ⟨n.textContent, n.line⟩)
    (hline : 0 < n.line) :
    ∃ d, (compileDocument (Markup.parseDocument src) name options).result = .error d ∧
      d.fault = .missingConstructorAnchor ∧
      d.line = n.line + Bytes.newlines (n.textContent.take h.brace.start) := by
  obtain ⟨main, registry, hresult⟩ := htemplates.result_eq
  rw [hscript, weave, Script.locate_of_open hheader hopen] at hresult
  refine ⟨_, hresult, rfl, ?_⟩
  rw [constructorDiagnostic, if_pos hline, lineAt]
  push_cast
  ring

/-- The reported line is that of the brace exactly if the start tag of the script stands on one
line. Let the first script of a source hold a constructor whose brace is still open at its end, and
let the templates compile. The text of the script begins on the line on which its start tag ends,
but the reported line is counted from the line on which the start tag begins. Where each carriage
return of the source stands in front of a newline, the brace lies as many lines below the reported
one as the start tag has newlines. -/
theorem unclosed_constructor_line
    (hscript : (Markup.parse src).find? (fun n => n.isElement && n.tag == scriptName) = some n)
    (hheader : FirstHeader (significant (scan n.textContent)) h)
    (hopen : ⟨.code, h.brace.start⟩ ∈ openers [] (scan n.textContent))
    (htemplates : TemplatesCompile (Markup.parseDocument src) name options) :
    ∃ pre start written d, ScriptAt src pre start written n ∧
      (compileDocument (Markup.parseDocument src) name options).result = .error d ∧
      d.fault = .missingConstructorAnchor ∧
      d.line = n.line + Bytes.newlines (n.textContent.take h.brace.start) ∧
      (d.line = endLine (pre ++ [start]) + Bytes.newlines (n.textContent.take h.brace.start) ↔
        Ascii.newline ∉ start.raw) ∧
      ∃ front back, src = pre.flatMap (·.raw) ++ (start.raw ++ (front ++ Ascii.openBrace :: back)) ∧
        rawData scriptName front = n.textContent.take h.brace.start ∧
        (PairedReturns src → d.line + start.raw.newlines =
          1 + Bytes.newlines (pre.flatMap (·.raw) ++ (start.raw ++ front))) := by
  have hfound := List.find?_some hscript
  have htag : n.tag = scriptName := by simpa using (Bool.and_eq_true_iff.mp hfound).2
  obtain ⟨back, hback⟩ := Script.exists_eq_take_brace hheader
  have htext : n.textContent ≠ [] := by
    rw [hback]
    simp
  obtain ⟨pre, start, written, hat⟩ :=
    Markup.exists_scriptAt (List.mem_of_find?_eq_some hscript) htag htext
  have hline := hat.line_eq
  have hpositive : 0 < n.line := by
    rw [hline, endLine]
    omega
  obtain ⟨d, hresult, hfault, hd⟩ :=
    exists_unclosed_of_open hheader hopen htemplates (behavior_parseDocument hscript) hpositive
  have hend : endLine (pre ++ [start]) = endLine pre + start.raw.newlines :=
    Markup.endLine_append pre [start]
  refine ⟨pre, start, written, d, hat, hresult, hfault, hd, ?_, ?_⟩
  · rw [hd, hline, hend, ← List.count_eq_zero, ← Bytes.newlines]
    omega
  · obtain ⟨front, behind, hsrc, hfront, hnewlines⟩ := hat.exists_brace hback
    refine ⟨front, behind, hsrc, hfront, fun hpaired => ?_⟩
    rw [hd, hline, hnewlines hpaired, Markup.newlines_append, Markup.newlines_append,
      ← Markup.newlinesOf_eq, endLine]
    push_cast
    ring

/-- A source whose second element has a start tag on two lines. -/
def wrappedSource : Bytes :=
  Bytes.lit "<template counter></template>\n<script\n>\nfunction Counter(props, el) " ++
    [Ascii.openBrace, Ascii.newline]

def wrappedText : Bytes :=
  Bytes.lit "\nfunction Counter(props, el) " ++ [Ascii.openBrace, Ascii.newline]

def wrappedScript : Node := .element scriptName [] [.text wrappedText 3] 2

def wrappedHeader : Header where
  name := Bytes.lit "Counter"
  paramsStart := 17
  paramsStop := 28
  brace := ⟨.punct, 29, [Ascii.openBrace]⟩
  body := []

set_option maxRecDepth 100000 in
theorem parse_wrappedSource : Markup.parse wrappedSource =
    [Template.templateNamed (Bytes.lit "counter") [] 1, .text (Bytes.lit "\n") 1,
      wrappedScript] := by cbv

theorem find?_wrappedSource :
    (Markup.parse wrappedSource).find? (fun n => n.isElement && n.tag == scriptName) =
      some wrappedScript := by
  rw [parse_wrappedSource]
  rfl

theorem firstHeader_wrappedScript :
    FirstHeader (significant (scan wrappedScript.textContent)) wrappedHeader :=
  Script.firstHeader?_eq_some_iff.mp (by cbv)

theorem mem_openers_wrappedScript :
    ⟨.code, wrappedHeader.brace.start⟩ ∈ openers [] (scan wrappedScript.textContent) := by
  decide +kernel

set_option maxRecDepth 10000 in
theorem templatesCompile_wrappedSource :
    TemplatesCompile (Markup.parseDocument wrappedSource) (Bytes.lit "Counter") {} := by
  have hsome : (compileDocument { templates := [Template.templateNamed (Bytes.lit "counter") [] 1] }
      (Bytes.lit "Counter") {}).result.toOption.isSome := by decide +kernel
  obtain ⟨code, hcode⟩ := exists_eq_ok hsome
  have hcompile := templatesCompile_of_result hcode
  rw [Markup.parseDocument, parse_wrappedSource]
  exact hcompile

theorem unclosed_constructor_line_wrapped :
    (Markup.parse wrappedSource).find? (fun n => n.isElement && n.tag == scriptName) =
      some wrappedScript ∧
    FirstHeader (significant (scan wrappedScript.textContent)) wrappedHeader ∧
    ⟨.code, wrappedHeader.brace.start⟩ ∈ openers [] (scan wrappedScript.textContent) ∧
    TemplatesCompile (Markup.parseDocument wrappedSource) (Bytes.lit "Counter") {} ∧
    ∃ pre start written d, ScriptAt wrappedSource pre start written wrappedScript ∧
      (compileDocument (Markup.parseDocument wrappedSource) (Bytes.lit "Counter") {}).result =
        .error d ∧
      (d.line = endLine (pre ++ [start]) + Bytes.newlines (wrappedScript.textContent.take 29) ↔
        Ascii.newline ∉ start.raw) := by
  obtain ⟨pre, start, written, d, hat, hresult, _, _, hline, _⟩ :=
    unclosed_constructor_line find?_wrappedSource
    firstHeader_wrappedScript mem_openers_wrappedScript templatesCompile_wrappedSource
  exact ⟨find?_wrappedSource, firstHeader_wrappedScript, mem_openers_wrappedScript,
    templatesCompile_wrappedSource,
    pre, start, written, d, hat, hresult, hline⟩

/-- The brace stands on the fourth line, one newline behind the start of the text on the third, and
the third line is reported. -/
theorem unclosed_constructor_line_misses_brace :
    (∃ d, (compileDocument (Markup.parseDocument wrappedSource) (Bytes.lit "Counter") {}).result =
      .error d ∧
      d.fault = .missingConstructorAnchor ∧ d.line = 3) ∧
    wrappedScript.children.map Node.line = [3] ∧
    Bytes.newlines (wrappedScript.textContent.take wrappedHeader.brace.start) = 1 ∧
    (∃ behind, wrappedSource = wrappedSource.take 68 ++ Ascii.openBrace :: behind) ∧
    1 + Bytes.newlines (wrappedSource.take 68) = 4 := by
  obtain ⟨d, hresult, hfault, hline⟩ :=
    exists_unclosed_of_open firstHeader_wrappedScript mem_openers_wrappedScript
    templatesCompile_wrappedSource (behavior_parseDocument find?_wrappedSource) (by decide)
  exact ⟨⟨d, hresult, hfault, hline⟩, rfl, by decide, ⟨[Ascii.newline], by decide⟩, by decide⟩

end ComponentCompiler.Component
