import ComponentCompiler.Bytes.Basic
import Mathlib

/-!
# Byte order

Byte order is the lexicographic order on lists of bytes, and has its laws from there. A sorted list
without repetitions is in strictly ascending order, so its members determine it.
-/

namespace ComponentCompiler.Bytes

variable {s t u : Bytes}

theorem lt_iff_lt : lt s t ↔ s < t := by
  induction s generalizing t with
  | nil => cases t <;> simp [lt]
  | cons a s ih =>
      cases t with
      | nil => simp [lt]
      | cons b t =>
          rw [lt, List.cons_lt_cons_iff]
          by_cases hab : a = b
          · simp [hab, ih, UInt8.lt_irrefl]
          · simp [hab]

theorem le_iff_le : le s t ↔ s ≤ t := by
  rw [le, Bool.not_eq_true', ← Bool.not_eq_true, lt_iff_lt, List.not_lt]

theorem lt_trans (hst : lt s t) (htu : lt t u) : lt s u :=
  lt_iff_lt.mpr (List.lt_trans (lt_iff_lt.mp hst) (lt_iff_lt.mp htu))

theorem not_lt_self (s : Bytes) : ¬lt s s := mt lt_iff_lt.mp (List.lt_irrefl s)

theorem lt_of_not_lt (hne : s ≠ t) (h : ¬lt t s) : lt s t := by
  rw [lt_iff_lt, List.not_lt] at h
  rw [lt_iff_lt, ← List.not_le]
  exact fun hts => hne (List.le_antisymm h hts)

/-! ## Sorted lists -/

theorem mem_sort {xs : List Bytes} {x : Bytes} : x ∈ sort xs ↔ x ∈ xs := List.mem_mergeSort

theorem pairwise_sort {xs : List Bytes} (h : xs.Nodup) : (sort xs).Pairwise (lt · ·) := by
  have htrans (s t u : Bytes) (hst : le s t) (htu : le t u) : le s u :=
    le_iff_le.mpr (List.le_trans (le_iff_le.mp hst) (le_iff_le.mp htu))
  have htotal (s t : Bytes) : le s t || le t s := by
    rw [Bool.or_eq_true, le_iff_le, le_iff_le]
    exact List.le_total s t
  have hle : (sort xs).Pairwise (le · ·) := List.pairwise_mergeSort htrans htotal xs
  have hne : (sort xs).Nodup := (List.mergeSort_perm xs le).nodup_iff.mpr h
  refine (hle.and hne).imp ?_
  rintro s t ⟨hst, hne⟩
  exact lt_of_not_lt hne (by simpa [le] using hst)

/-- A list in ascending order is known by its members. -/
theorem eq_of_pairwise_lt {xs ys : List Bytes} (hxs : xs.Pairwise (lt · ·))
    (hys : ys.Pairwise (lt · ·)) (h : ∀ x, x ∈ xs ↔ x ∈ ys) : xs = ys := by
  have hne : ∀ s t : Bytes, lt s t → s ≠ t := by
    rintro s _ hst rfl
    exact not_lt_self s hst
  have hperm : xs.Perm ys :=
    (List.perm_ext_iff_of_nodup (hxs.imp (hne _ _)) (hys.imp (hne _ _))).mpr h
  refine hperm.eq_of_pairwise (fun s t _ _ hst hts => ?_) hxs hys
  exact absurd (lt_trans hst hts) (not_lt_self s)

end ComponentCompiler.Bytes
