import ComponentCompiler.Proofs.Splice
import Mathlib

/-!
# Spliced texts, offset by offset

At each offset of the code a spliced text has the texts of the splices there, in the order of the
list, and then the byte of the code. So its length is that of the code and of all texts, and only
the order of splices with one offset matters.
-/

namespace ComponentCompiler.Script

open Traced (insertion)

theorem text_spreadAll (splices : List Splice) (n : Nat) (code : Bytes) :
    Traced.text (spreadAll splices n code) =
      (List.range (code.length + 1)).flatMap fun i => textsAt splices (n + i) ++
        code[i]?.toList := by
  induction code generalizing n with
  | nil => simp [spreadAll, spread]
  | cons b code ih =>
      have hfirst : spreadAll splices n (b :: code) =
          insertion (textsAt splices n) ++ .kept n b :: spreadAll splices (n + 1) code := by
        simp [spreadAll, spread, Nat.add_comm, Nat.add_left_comm]
      have hshift : ∀ i, n + 1 + i = n + (i + 1) := by omega
      rw [hfirst, List.length_cons, List.range_succ_eq_map, List.flatMap_cons, List.flatMap_map,
        Traced.text_append, Traced.text_cons, ih]
      simp [Traced.byte, hshift]

theorem length_insertSorted (pos : Nat) (code : Bytes) (splices : List Splice) :
    (insertSorted pos code splices).length = code.length + (splices.map (·.text.length)).sum := by
  induction splices generalizing pos code with
  | nil => simp [insertSorted]
  | cons s rest ih =>
      simp only [insertSorted, List.length_append, List.length_take, ih, List.length_drop,
        List.map_cons, List.sum_cons]
      omega

theorem length_applySplices (code : Bytes) (splices : List Splice) :
    (applySplices code splices).length = code.length + (splices.map (·.text.length)).sum := by
  have hperm := (List.mergeSort_perm splices fun a b => a.offset ≤ b.offset).map (·.text.length)
  rw [applySplices, length_insertSorted, hperm.sum_nat]

/-- Only the order of splices with one offset matters. -/
theorem applySplices_congr {code : Bytes} {splices others : List Splice}
    (h : ∀ s ∈ splices, s.offset ≤ code.length)
    (hsame : ∀ n, others.filter (·.offset = n) = splices.filter (·.offset = n)) :
    applySplices code others = applySplices code splices := by
  have hothers : ∀ s ∈ others, s.offset ≤ code.length := by
    intro s hs
    have hmem : s ∈ others.filter (·.offset = s.offset) := List.mem_filter.mpr ⟨hs, by simp⟩
    rw [hsame] at hmem
    exact h s (List.mem_filter.mp hmem).1
  have htexts : ∀ n, textsAt others n = textsAt splices n :=
    fun n => by rw [textsAt, textsAt, hsame]
  rw [applySplices_eq hothers, applySplices_eq h, spreadAll, spreadAll, spread_congr htexts, htexts]

/-- Where all offsets differ, there is at most one splice for each. -/
theorem filter_offset_eq_of_perm {splices others : List Splice} (hperm : others.Perm splices)
    (hdiffer : splices.Pairwise fun a b => a.offset ≠ b.offset) (n : Nat) :
    others.filter (·.offset = n) = splices.filter (·.offset = n) := by
  have hfilter : (others.filter (·.offset = n)).Perm (splices.filter (·.offset = n)) :=
    hperm.filter _
  have hpair : (splices.filter (·.offset = n)).Pairwise fun a b => a.offset ≠ b.offset :=
    hdiffer.filter _
  have hat : ∀ s ∈ splices.filter (·.offset = n), s.offset = n := by
    intro s hs
    simpa using (List.mem_filter.mp hs).2
  cases hsplices : splices.filter (·.offset = n) with
  | nil =>
      rw [hsplices] at hfilter
      exact hfilter.eq_nil
  | cons s rest =>
      rw [hsplices] at hfilter hpair hat
      cases rest with
      | nil => exact List.perm_singleton.mp hfilter
      | cons u rest =>
          have hne := (List.pairwise_cons.mp hpair).1 u List.mem_cons_self
          rw [hat s List.mem_cons_self, hat u (by simp)] at hne
          exact absurd rfl hne

/-- Splices whose offsets lie in the code, in any order, give at each offset the texts of the
splices there, in the order of the list, and then the byte of the code. So splices with
different offsets may change places, all of them if no two have one offset, and nothing but the
texts is added. -/
theorem applySplices_eq_flatMap {code : Bytes} {splices : List Splice}
    (h : ∀ s ∈ splices, s.offset ≤ code.length) :
    applySplices code splices = ((List.range (code.length + 1)).flatMap fun i =>
      (splices.filter (·.offset = i)).flatMap Splice.text ++ code[i]?.toList) ∧
    (∀ others : List Splice,
      (∀ i, others.filter (·.offset = i) = splices.filter (·.offset = i)) →
        applySplices code others = applySplices code splices) ∧
    (∀ others : List Splice, others.Perm splices →
      splices.Pairwise (fun a b => a.offset ≠ b.offset) →
        applySplices code others = applySplices code splices) ∧
    (applySplices code splices).length = code.length + (splices.map (·.text.length)).sum := by
  refine ⟨?_, fun others => applySplices_congr h, fun others hperm hdiffer => ?_,
    length_applySplices code splices⟩
  · rw [applySplices_eq h, text_spreadAll]
    simp only [textsAt, Nat.zero_add]
  · exact applySplices_congr h (filter_offset_eq_of_perm hperm hdiffer)

/-- Two splices in front of the code and two behind it, mixed. -/
def endSplices : List Splice :=
  [⟨2, Bytes.lit "y"⟩, ⟨0, Bytes.lit "v"⟩, ⟨2, Bytes.lit "z"⟩, ⟨0, Bytes.lit "w"⟩]

theorem applySplices_endSplices :
    (∀ s ∈ endSplices, s.offset ≤ (Bytes.lit "ab").length) ∧
    applySplices (Bytes.lit "ab") endSplices = Bytes.lit "vwabyz" ∧
    applySplices (Bytes.lit "ab")
      [⟨0, Bytes.lit "v"⟩, ⟨2, Bytes.lit "y"⟩, ⟨0, Bytes.lit "w"⟩, ⟨2, Bytes.lit "z"⟩] =
        Bytes.lit "vwabyz" ∧
    applySplices (Bytes.lit "ab") [⟨0, Bytes.lit "v"⟩, ⟨2, Bytes.lit "z"⟩] =
      applySplices (Bytes.lit "ab") [⟨2, Bytes.lit "z"⟩, ⟨0, Bytes.lit "v"⟩] := by
  have hrange : ∀ s ∈ endSplices, s.offset ≤ (Bytes.lit "ab").length := by decide
  have hrange' :
      ∀ s ∈ [Splice.mk 2 (Bytes.lit "z"), ⟨0, Bytes.lit "v"⟩], s.offset ≤
        (Bytes.lit "ab").length := by
    decide
  obtain ⟨htext, hreorder, -, -⟩ := applySplices_eq_flatMap hrange
  have htext : applySplices (Bytes.lit "ab") endSplices = Bytes.lit "vwabyz" :=
    htext.trans (by decide)
  refine ⟨hrange, htext, (hreorder _ fun i => ?_).trans htext, ?_⟩
  · by_cases hfront : 0 = i
    · subst hfront
      decide
    · by_cases hend : 2 = i
      · subst hend
        decide
      · simp [endSplices, hfront, hend]
  · exact (applySplices_eq_flatMap hrange').2.2.1 _ (.swap _ _ _) (by decide)

end ComponentCompiler.Script
