import ComponentCompiler.Diagnostic
import ComponentCompiler.Proofs.Path
import Mathlib

/-!
# The context of an offset

The line of an offset is found by counting newlines, and the lines of a context by cutting the
source at them. The two agree: the line with the number of an offset is the one that holds its byte,
where a newline belongs to the line that it ends. So the context of an offset shows the lines around
that byte and marks the one that holds it.
-/

namespace ComponentCompiler.Bytes

/-! ## Pieces -/

theorem length_splitOn (sep : UInt8) (s : Bytes) : (s.splitOn sep).length = s.count sep + 1 := by
  induction s with
  | nil => rfl
  | cons c s ih =>
      rw [List.splitOn_cons_eq_if_modifyHead]
      by_cases hc : c = sep
      · simp [hc, ih]
      · simp [hc, ih]

/-- A piece stands behind as many separators as there are pieces in front of it. -/
theorem exists_of_splitOn_eq {sep : UInt8} {s piece : Bytes} {front back : List Bytes}
    (h : s.splitOn sep = front ++ piece :: back) :
    ∃ before after, before ++ piece ++ after = s ∧ before.count sep = front.length ∧
      (before = [] ∨ ∃ start, before = start ++ [sep]) ∧
        (after = [] ∨ ∃ rest, after = sep :: rest) := by
  induction front generalizing s with
  | nil =>
      by_cases hsep : sep ∈ s
      · obtain ⟨first, rest, rfl, hfirst⟩ := List.eq_append_cons_of_mem hsep
        rw [List.splitOn_append_cons_self, List.splitOn_eq_singleton hfirst] at h
        obtain ⟨rfl, -⟩ := List.cons.inj h
        exact ⟨[], sep :: rest, rfl, rfl, .inl rfl, .inr ⟨rest, rfl⟩⟩
      · rw [List.splitOn_eq_singleton hsep] at h
        obtain ⟨rfl, -⟩ := List.cons.inj h
        exact ⟨[], [], by simp, rfl, .inl rfl, .inl rfl⟩
  | cons first front ih =>
      have hsep : sep ∈ s := by
        by_contra hsep
        rw [List.splitOn_eq_singleton hsep] at h
        simp at h
      obtain ⟨first', rest, rfl, hfirst⟩ := List.eq_append_cons_of_mem hsep
      rw [List.splitOn_append_cons_self, List.splitOn_eq_singleton hfirst] at h
      obtain ⟨rfl, hrest⟩ := List.cons.inj h
      obtain ⟨before, after, rfl, hcount, hstart, hend⟩ := ih hrest
      refine ⟨first' ++ sep :: before, after, by simp, ?_, .inr ?_, hend⟩
      · rw [List.count_append, List.count_cons_self, List.count_eq_zero.mpr hfirst, hcount,
          List.length_cons]
        omega
      · rcases hstart with rfl | ⟨start, rfl⟩
        · exact ⟨first', rfl⟩
        · exact ⟨first' ++ sep :: start, by simp⟩

end ComponentCompiler.Bytes

namespace ComponentCompiler

/-! ## Lines of a source -/

/-- A line of a source, with what stands before and after it. -/
structure SourceLine (s : Bytes) where
  before : Bytes
  text : Bytes
  after : Bytes
  source : before ++ text ++ after = s
  starts : before = [] ∨ ∃ front, before = front ++ [Ascii.newline]
  ends : after = [] ∨ ∃ rest, after = Ascii.newline :: rest
  newline_not_mem : Ascii.newline ∉ text

variable {s : Bytes}

namespace SourceLine

/-- The number of a line, counted from one. -/
def number (l : SourceLine s) : Nat := l.before.newlines + 1

/-- The byte at `offset` is one of the text, or the newline that ends it. -/
def Holds (l : SourceLine s) (offset : Nat) : Prop :=
  l.before.length ≤ offset ∧ offset ≤ l.before.length + l.text.length

instance (l : SourceLine s) (offset : Nat) : Decidable (l.Holds offset) := instDecidableAnd

theorem length_eq (l : SourceLine s) :
    s.length = l.before.length + l.text.length + l.after.length := by
  have h := congrArg List.length l.source
  rw [List.length_append, List.length_append] at h
  exact h.symm

theorem newlines_take (l : SourceLine s) (offset : Nat) :
    Bytes.newlines (s.take offset) = Bytes.newlines (l.before.take offset) +
      Bytes.newlines (l.after.take (offset - (l.before.length + l.text.length))) := by
  have hplain : Ascii.newline ∉ l.text.take (offset - l.before.length) :=
    fun hmem => l.newline_not_mem (List.mem_of_mem_take hmem)
  have htake := congrArg (List.take offset) l.source
  rw [List.take_append, List.take_append, List.length_append] at htake
  rw [Bytes.newlines, ← htake, List.count_append, List.count_append, List.count_eq_zero.mpr hplain]
  rfl

theorem number_eq_lineAt {l : SourceLine s} {offset : Nat} (h : l.Holds offset) :
    l.number = lineAt s offset := by
  rw [lineAt, l.newlines_take, List.take_of_length_le h.1, Nat.sub_eq_zero_of_le h.2]
  rfl

theorem newlines_take_lt {l : SourceLine s} {offset : Nat} (h : offset < l.before.length) :
    Bytes.newlines (s.take offset) < l.before.newlines := by
  rcases l.starts with hnil | ⟨front, hfront⟩
  · simp [hnil] at h
  · have hle : Bytes.newlines (front.take offset) ≤ front.newlines :=
      (List.take_sublist offset front).count_le _
    have hlength : offset ≤ front.length := by simpa [hfront, Nat.lt_succ_iff] using h
    rw [l.newlines_take, Nat.sub_eq_zero_of_le (by omega), hfront,
      List.take_append_of_le_length hlength]
    simp only [Bytes.newlines, List.count_append, List.count_singleton_self, List.take_zero,
      List.count_nil] at hle ⊢
    omega

theorem lt_newlines_take {l : SourceLine s} {offset : Nat}
    (h : l.before.length + l.text.length < offset) (hoffset : offset < s.length) :
    l.before.newlines < Bytes.newlines (s.take offset) := by
  rcases l.ends with hnil | ⟨rest, hrest⟩
  · have hlength := l.length_eq
    simp only [hnil, List.length_nil] at hlength
    omega
  · obtain ⟨past, hpast⟩ := Nat.exists_eq_add_of_lt h
    rw [l.newlines_take, List.take_of_length_le (by omega), hrest,
      show offset - (l.before.length + l.text.length) = past + 1 by omega, List.take_succ_cons]
    simp only [Bytes.newlines, List.count_cons_self]
    omega

theorem holds_iff (l : SourceLine s) {offset : Nat} (hoffset : offset < s.length) :
    l.Holds offset ↔ l.number = lineAt s offset := by
  refine ⟨number_eq_lineAt, fun h => ?_⟩
  have hnewlines : l.before.newlines = Bytes.newlines (s.take offset) := Nat.succ.inj h
  constructor
  · by_contra hbefore
    have hlt := newlines_take_lt (Nat.not_le.mp hbefore)
    omega
  · by_contra hbehind
    have hlt := lt_newlines_take (Nat.not_le.mp hbehind) hoffset
    omega

/-- The piece at an index is the line with the next number. -/
theorem exists_of_getElem {i : Nat} (hi : i < (s.splitOn Ascii.newline).length) :
    ∃ l : SourceLine s, l.number = i + 1 ∧ l.text = (s.splitOn Ascii.newline)[i] := by
  have hpieces := List.take_append_drop i (s.splitOn Ascii.newline)
  rw [List.drop_eq_getElem_cons hi] at hpieces
  obtain ⟨before, after, hsource, hcount, hstart, hend⟩ := Bytes.exists_of_splitOn_eq hpieces.symm
  refine ⟨⟨before, _, after, hsource, hstart, hend,
    Bytes.not_mem_of_mem_splitOn (List.getElem_mem hi)⟩, ?_, rfl⟩
  rw [List.length_take, Nat.min_eq_left (Nat.le_of_lt hi)] at hcount
  rw [number, Bytes.newlines, hcount]

/-- Indices of pieces, one after another, are lines with their numbers and texts. -/
theorem exists_map_eq (is : List Nat) (h : ∀ i ∈ is, i < (s.splitOn Ascii.newline).length) :
    ∃ lines : List (SourceLine s),
      lines.map (fun l => (l.number, l.text)) =
        is.map fun i => (i + 1, (s.splitOn Ascii.newline).getD i []) := by
  have hrange := Set.range_list_map fun l : SourceLine s => (l.number, l.text)
  refine hrange.ge fun x hx => ?_
  obtain ⟨i, hi, rfl⟩ := List.mem_map.mp hx
  obtain ⟨l, hnumber, htext⟩ := exists_of_getElem (h i hi)
  exact ⟨l, by simp only [hnumber, htext, List.getD_eq_getElem _ _ (h i hi)]⟩

end SourceLine

/-! ## The window -/

theorem lineAt_le (s : Bytes) (offset : Nat) : lineAt s offset ≤ s.newlines + 1 :=
  Nat.succ_le_succ ((List.take_sublist offset s).count_le Ascii.newline)

/-- The clamped window, counted from zero, holds the numbers from one on that lie
around the line. -/
theorem map_range'_window (line size count : Nat) :
    (List.range' (line - size - 1) (min (line + size) count - (line - size - 1))).map (1 + ·) =
      List.Ico (max 1 (line - size)) (min count (line + size) + 1) := by
  have hstart : 1 + (line - size - 1) = max 1 (line - size) := by omega
  have hlength : min (line + size) count - (line - size - 1) =
      min count (line + size) + 1 - max 1 (line - size) := by omega
  rw [List.map_add_range', List.Ico, hstart, hlength]

/-- As long as the last line asked for is a machine word, neither end of the window wraps around. -/
theorem clamped_window {line size : Nat} (h : line + size < 2 ^ 63) (count : Nat) :
    (max (Int64.ofInt (line - size - 1)).toInt 0).toNat = line - size - 1 ∧
      (min (Int64.ofInt (line + size)).toInt count).toNat = min (line + size) count := by
  rw [Int64.toInt_ofInt_of_le (by omega) (by omega), Int64.toInt_ofInt_of_le (by omega) (by omega)]
  omega

theorem exists_contextLines_eq (s : Bytes) {line size : Nat} (h : line + size < 2 ^ 63) :
    ∃ shown : List (SourceLine s),
      shown.map SourceLine.number =
        List.Ico (max 1 (line - size)) (min (s.newlines + 1) (line + size) + 1) ∧
      contextLines s line size =
        Ascii.newline :: shown.flatMap fun l => contextLine (l.number == line) l.number l.text := by
  have hlength : (s.splitOn Ascii.newline).length = s.newlines + 1 :=
    Bytes.length_splitOn Ascii.newline s
  obtain ⟨hstart, hstop⟩ := clamped_window h (s.newlines + 1)
  obtain ⟨shown, hshown⟩ := SourceLine.exists_map_eq (s := s)
    (List.range' (line - size - 1) (min (line + size) (s.newlines + 1) - (line - size - 1))) (by
      intro i hi
      rw [List.mem_range'_1] at hi
      omega)
  refine ⟨shown, ?_, ?_⟩
  · have hnumbers := congrArg (List.map Prod.fst) hshown
    rw [List.map_map, List.map_map] at hnumbers
    rw [← map_range'_window]
    exact hnumbers.trans (List.map_congr_left fun i _ => Nat.add_comm i 1)
  · have hrows := congrArg
      (List.flatMap fun x : Nat × Bytes => contextLine (x.1 == line) x.1 x.2) hshown
    rw [List.flatMap_map, List.flatMap_map] at hrows
    have hmark (i : Nat) : (((i + 1 : Nat) : Int) == line) = (i + 1 == line) := by
      rw [Bool.eq_iff_iff, beq_iff_eq, beq_iff_eq, Nat.cast_inj]
    rw [contextLines, hlength, hstart, hstop, hrows]
    simp only [hmark]

/-- The lines that a context of an offset should show: those that lie at most `size` lines from the
line of the offset, in order, each with its number and its text, and with a mark on the only one
that holds the offset. -/
def ShowsAround (s : Bytes) (offset size : Nat) (context : Bytes) : Prop :=
  ∃ shown : List (SourceLine s),
    shown.map SourceLine.number =
      List.Ico (max 1 (lineAt s offset - size))
        (min (s.newlines + 1) (lineAt s offset + size) + 1) ∧
    (∃! l, l ∈ shown ∧ l.Holds offset) ∧
    context = Ascii.newline :: shown.flatMap fun l =>
      Bytes.lit (if l.Holds offset then "> " else "  ") ++
        Bytes.padLeft 4 (Bytes.ofNat l.number) ++ Bytes.lit " | " ++ l.text ++ [Ascii.newline]

/-- The context of the line of an offset shows the lines around the byte there and marks its line,
as long as the last line asked for has a number that is a machine word. -/
theorem contextLines_showsAround {offset size : Nat} (hoffset : offset < s.length)
    (h : lineAt s offset + size < 2 ^ 63) :
    ShowsAround s offset size (contextLines s (lineAt s offset) size) := by
  obtain ⟨shown, hnumbers, hcontext⟩ := exists_contextLines_eq s h
  refine ⟨shown, hnumbers, ?_, ?_⟩
  · have hline : lineAt s offset ∈ shown.map SourceLine.number := by
      have hpos : 1 ≤ lineAt s offset := Nat.succ_pos _
      have hle := lineAt_le s offset
      rw [hnumbers, List.Ico.mem]
      omega
    have hnodup : (shown.map SourceLine.number).Nodup := hnumbers ▸ List.Ico.nodup _ _
    obtain ⟨l, hl, hnumber⟩ := List.mem_map.mp hline
    refine ⟨l, ⟨hl, (l.holds_iff hoffset).mpr hnumber⟩, ?_⟩
    rintro l' ⟨hl', hholds⟩
    exact List.inj_on_of_nodup_map hnodup hl' hl
      ((SourceLine.number_eq_lineAt hholds).trans hnumber.symm)
  · have hmark (l : SourceLine s) : (l.number == lineAt s offset) = decide (l.Holds offset) := by
      rw [Bool.eq_iff_iff, beq_iff_eq, decide_eq_true_iff, l.holds_iff hoffset]
    simpa only [hmark, contextLine, decide_eq_true_eq] using hcontext

def fourLines : Bytes := Bytes.lit "one\ntwo\n\nfour"

/-- The newline at offset 7 belongs to the second line, which it ends. -/
theorem contextLines_showsAround_newline :
    7 < fourLines.length ∧ fourLines.drop 7 = Bytes.lit "\n\nfour" ∧ lineAt fourLines 7 = 2 ∧
    contextLines fourLines (lineAt fourLines 7) (1 : Nat) =
      Bytes.lit "\n     1 | one\n>    2 | two\n     3 | \n" ∧
    ShowsAround fourLines 7 1 (contextLines fourLines (lineAt fourLines 7) (1 : Nat)) := by
  have hoffset : 7 < fourLines.length := by decide
  exact ⟨hoffset, by decide, by decide, by decide +kernel,
    contextLines_showsAround hoffset (by decide)⟩

end ComponentCompiler
