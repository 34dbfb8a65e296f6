import ComponentCompiler.Proofs.OpenExpressions
import Mathlib

/-!
# The line of an open brace

An expression that is never closed is reported on the line of its text and the line breaks in front
of its brace. The brace is found by trimming white space of every kind, but line breaks are counted
only up to the first white space that is no space, tab or line break. So the line is the one of the
brace exactly if no line break stands behind such white space, and otherwise it is a line before.
-/

namespace ComponentCompiler.Template

open Markup (Node)

/-! ## White space in front of a brace -/

/-- The white space behind which line breaks are still counted. -/
def plainBlanks : List UInt8 := [Ascii.space, Ascii.tab, Ascii.carriageReturn, Ascii.newline]

theorem leading_eq (data : Bytes) : leading data = data.takeWhile (· ∈ plainBlanks) := by
  refine congrArg (data.takeWhile ·) (funext fun c => ?_)
  rw [Bool.eq_iff_iff]
  simp [plainBlanks, or_assoc]

/-- Every line break has only spaces, tabs and line breaks in front of it. -/
def PlainBreaks (blank : Bytes) : Prop :=
  ∀ front back, blank = front ++ Ascii.newline :: back → ∀ b ∈ front, b ∈ plainBlanks

theorem exists_blank_of_isOpeningText {data : Bytes} (h : isOpeningText data) :
    ∃ blank rest, data = blank ++ Ascii.openBrace :: rest ∧
      ∀ r ∈ Utf8.decode blank, Text.isBlankRune r := by
  rw [isOpeningText, Bool.and_eq_true, beq_iff_eq] at h
  obtain ⟨more, hmore⟩ := Text.dropWhile_decode_of_head?_trim (c := '{') (by decide) h.1
  refine ⟨Utf8.encode ((Utf8.decode data).takeWhile Text.isBlankRune), Utf8.encode more, ?_, ?_⟩
  · have hall := List.takeWhile_append_dropWhile (p := Text.isBlankRune) (l := Utf8.decode data)
    rw [hmore] at hall
    have hbrace : (Rune.scalar ('{')).bytes = [Ascii.openBrace] := by decide
    have hdata := congrArg Utf8.encode hall
    rw [Utf8.encode_decode, Utf8.encode_append, Utf8.encode_cons, hbrace] at hdata
    exact hdata.symm
  · rw [Utf8.decode_encode_of_prefix (List.takeWhile_prefix _)]
    exact fun r hr => List.mem_takeWhile_imp hr

theorem leading_append_brace (blank rest : Bytes) :
    leading (blank ++ Ascii.openBrace :: rest) = leading blank := by
  induction blank with
  | nil => rfl
  | cons b blank ih =>
      simp only [leading_eq, List.cons_append, List.takeWhile_cons] at ih ⊢
      rw [ih]

/-- What is counted and what is not. -/
theorem newlines_eq_add (blank : Bytes) :
    blank.newlines = (leading blank).newlines +
      Bytes.newlines (blank.dropWhile (· ∈ plainBlanks)) := by
  rw [leading_eq, Bytes.newlines, Bytes.newlines, Bytes.newlines, ← List.count_append,
    List.takeWhile_append_dropWhile]

theorem plainBreaks_iff {blank : Bytes} :
    PlainBreaks blank ↔ Ascii.newline ∉ blank.dropWhile (· ∈ plainBlanks) := by
  constructor
  · intro h hmem
    obtain ⟨front, back, hsplit⟩ := List.append_of_mem hmem
    have hblank : blank = blank.takeWhile (· ∈ plainBlanks) ++ front ++ Ascii.newline :: back := by
      rw [List.append_assoc, ← hsplit, List.takeWhile_append_dropWhile]
    -- what is left starts with another blank, and the line break stands behind it
    have hhead := List.head?_dropWhile_not (· ∈ plainBlanks) blank
    rw [hsplit] at hhead
    cases front with
    | nil => simp [plainBlanks] at hhead
    | cons x front =>
        have hx := h _ back hblank x (by simp)
        simp [hx] at hhead
  · intro h front back hsplit b hb
    by_contra hother
    have hleft : front.dropWhile (· ∈ plainBlanks) ≠ [] := by
      intro hnil
      have hall := List.dropWhile_eq_nil_iff.mp hnil b hb
      exact hother (by simpa using hall)
    refine h ?_
    rw [hsplit, List.dropWhile_append, if_neg (by simpa using hleft)]
    simp

/-- The lines that are counted are those in front of the brace exactly if all line
breaks are plain. -/
theorem newlines_leading_eq_iff {blank : Bytes} :
    (leading blank).newlines = blank.newlines ↔ PlainBreaks blank := by
  rw [plainBreaks_iff, ← List.count_eq_zero, newlines_eq_add blank]
  unfold Bytes.newlines
  omega

/-! ## The line of the diagnostic -/

/-- The line of an expression that is never closed. The error is about the first element, in the
order in which elements are finished, that leaves an expression open, and about the last text in it
that is still open. Its line never lies behind the brace of that text, and it is the line of the
brace exactly if all line breaks in front of the brace are plain. -/
theorem unclosed_line_iff {registry : Registry} {block : Bytes} {n : Node} {d : Diagnostic}
    (h : (compileElement registry block n).result = .error d) :
    ∃ earlier m later data line blank rest, finishOrder registry n = earlier ++ m :: later ∧
      (∀ e ∈ earlier, openCount 0 e.children = 0) ∧ LastLeftOpenAt m.children data line ∧
      ReportsOpen m data d ∧ data = blank ++ Ascii.openBrace :: rest ∧
      (∀ r ∈ Utf8.decode blank, Text.isBlankRune r) ∧ d.line ≤ line + blank.newlines ∧
      (d.line = line + blank.newlines ↔ PlainBreaks blank) := by
  obtain ⟨earlier, m, later, data, horder, hearlier, hreports, line, hlast, hline⟩ :=
    (settles_last_compileElement registry block n).exists_of_error h
  have hopening : isOpeningText data := by
    obtain ⟨before, after, _, hopening, _⟩ := hlast
    exact hopening
  obtain ⟨blank, rest, rfl, hblank⟩ := exists_blank_of_isOpeningText hopening
  rw [leading_append_brace] at hline
  have hcounted := newlines_eq_add blank
  refine ⟨earlier, m, later, _, line, blank, rest, horder, hearlier, hlast, hreports, rfl,
    hblank, by omega, ?_⟩
  rw [← newlines_leading_eq_iff]
  omega

theorem unclosed_line_nested :
    (compileElement {} [] sampleUnclosed).result =
        .error (unclosed [] (Bytes.lit "ul") ⟨Bytes.lit "first(", 3, []⟩) ∧
      ∃ m data line blank rest, m ∈ finishOrder {} sampleUnclosed ∧
        LastLeftOpenAt m.children data line ∧
        data = blank ++ Ascii.openBrace :: rest ∧
          (3 = line + blank.newlines ↔ PlainBreaks blank) := by
  have hd : (compileElement {} [] sampleUnclosed).result =
      .error (unclosed [] (Bytes.lit "ul") ⟨Bytes.lit "first(", 3, []⟩) := by cbv
  obtain ⟨earlier, m, later, data, line, blank, rest, horder, _, hlast, _, hdata, _, _, hline⟩ :=
    unclosed_line_iff hd
  exact ⟨hd, m, data, line, blank, rest, by simp [horder], hlast, hdata, hline⟩

/-- A no-break space and a line break in front of a brace. -/
def hiddenBreak : Bytes := Bytes.lit "\u00a0\n"

def hiddenBrace : Node :=
  .element (Bytes.lit "p") [] [.text (hiddenBreak ++ Ascii.openBrace :: Bytes.lit "items.map(") 1] 1

/-- The brace stands on the second line, and the first one is reported. -/
theorem unclosed_line_misses_brace :
    (compileElement {} [] hiddenBrace).result =
        .error (unclosed [] (Bytes.lit "p") ⟨Bytes.lit "items.map(", 1, []⟩) ∧
      LastLeftOpenAt hiddenBrace.children
        (hiddenBreak ++ Ascii.openBrace :: Bytes.lit "items.map(") 1 ∧
      (∀ r ∈ Utf8.decode hiddenBreak, Text.isBlankRune r) ∧
        (1 : Int) + hiddenBreak.newlines = 2 := by
  refine ⟨by cbv, ⟨[], [], rfl, by decide +kernel, ?_, rfl⟩, by decide +kernel, by decide⟩
  intro front hfront
  rw [List.prefix_nil.mp hfront]
  decide

end ComponentCompiler.Template
