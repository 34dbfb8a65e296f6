import ComponentCompiler.Script.Splice

/-!
# Traced texts

A traced text is a spliced text that remembers where each byte comes from: an offset of the code, or
one of the inserted texts. `spread` writes a list of splices out byte by byte, without sorting it
first, and `applySplices_eq` says that sorting and inserting comes to the same text. The order of
splices at one offset is what the stability of the sort is needed for.
-/

namespace ComponentCompiler.Script

/-- A byte of a spliced text: kept from an offset of the code, or inserted. -/
inductive Traced where
  | kept (offset : Nat) (byte : UInt8)
  | inserted (byte : UInt8)
  deriving DecidableEq, Repr, Inhabited

namespace Traced

/-- The byte itself. -/
def byte : Traced → UInt8
  | kept _ b => b
  | inserted b => b

/-- The byte, if it is one of the code. -/
def codeByte? : Traced → Option UInt8
  | kept _ b => some b
  | inserted _ => none

/-- The text that a traced text stands for. -/
def text (tr : List Traced) : Bytes := tr.map byte

/-- The code that is left of a traced text when the inserted bytes are deleted. -/
def code (tr : List Traced) : Bytes := tr.filterMap codeByte?

/-- A text that is inserted as a whole. -/
def insertion (x : Bytes) : List Traced := x.map inserted

/-- A stretch of code that is kept as a whole, from offset `n` on. -/
def keptFrom : Nat → Bytes → List Traced
  | _, [] => []
  | n, b :: x => kept n b :: keptFrom (n + 1) x

@[simp] theorem text_nil : text [] = [] := rfl

@[simp] theorem text_cons (t : Traced) (tr : List Traced) :
    text (t :: tr) = t.byte :: text tr := rfl

@[simp] theorem text_append (tr us : List Traced) : text (tr ++ us) = text tr ++ text us :=
  List.map_append

@[simp] theorem code_nil : code [] = [] := rfl

@[simp] theorem code_cons_kept (n : Nat) (b : UInt8) (tr : List Traced) :
    code (kept n b :: tr) = b :: code tr := rfl

@[simp] theorem code_append (tr us : List Traced) : code (tr ++ us) = code tr ++ code us :=
  List.filterMap_append

@[simp] theorem length_text (tr : List Traced) : (text tr).length = tr.length := List.length_map ..

@[simp] theorem insertion_nil : insertion [] = [] := rfl

@[simp] theorem insertion_append (x y : Bytes) : insertion (x ++ y) = insertion x ++ insertion y :=
  List.map_append

@[simp] theorem length_insertion (x : Bytes) : (insertion x).length = x.length := List.length_map ..

@[simp] theorem text_insertion (x : Bytes) : text (insertion x) = x := by
  induction x with
  | nil => rfl
  | cons b x ih => simpa [insertion, text, byte] using ih

@[simp] theorem code_insertion (x : Bytes) : code (insertion x) = [] := by
  induction x with
  | nil => rfl
  | cons b x ih => simp [insertion, code, codeByte?]

@[simp] theorem text_keptFrom (n : Nat) (x : Bytes) : text (keptFrom n x) = x := by
  induction x generalizing n with
  | nil => rfl
  | cons b x ih => simp [keptFrom, byte, ih]

@[simp] theorem length_keptFrom (n : Nat) (x : Bytes) : (keptFrom n x).length = x.length := by
  rw [← length_text, text_keptFrom]

end Traced

open Traced (insertion keptFrom)

/-! ## Splices written out -/

/-- The texts that splices insert at the offset `n`, in the order of the list. -/
def textsAt (splices : List Splice) (n : Nat) : Bytes :=
  (splices.filter (·.offset = n)).flatMap Splice.text

/-- A stretch of code that starts at offset `n`, with the splices in front of each of its bytes. -/
def spread (splices : List Splice) : Nat → Bytes → List Traced
  | _, [] => []
  | n, b :: x => insertion (textsAt splices n) ++ .kept n b :: spread splices (n + 1) x

/-- A stretch of code with its splices, those right behind it included. -/
def spreadAll (splices : List Splice) (n : Nat) (x : Bytes) : List Traced :=
  spread splices n x ++ insertion (textsAt splices (n + x.length))

theorem textsAt_cons_self (s : Splice) (rest : List Splice) :
    textsAt (s :: rest) s.offset = s.text ++ textsAt rest s.offset := by
  simp [textsAt]

theorem textsAt_cons_ne {s : Splice} {n : Nat} (rest : List Splice) (h : s.offset ≠ n) :
    textsAt (s :: rest) n = textsAt rest n := by
  simp [textsAt, h]

theorem textsAt_eq_nil {splices : List Splice} {n : Nat} (h : ∀ s ∈ splices, s.offset ≠ n) :
    textsAt splices n = [] := by
  have hf : splices.filter (·.offset = n) = [] := by
    rw [List.filter_eq_nil_iff]
    intro s hs
    simpa using h s hs
  simp [textsAt, hf]

/-- Spreading looks at the splices only through the texts at each offset. -/
theorem spread_congr {ss us : List Splice} (h : ∀ n, textsAt ss n = textsAt us n) (n : Nat)
    (x : Bytes) : spread ss n x = spread us n x := by
  induction x generalizing n with
  | nil => rfl
  | cons b x ih => simp [spread, h, ih]

theorem spread_cons_outside {s : Splice} {n : Nat} {x : Bytes} (rest : List Splice)
    (h : s.offset < n ∨ n + x.length ≤ s.offset) :
    spread (s :: rest) n x = spread rest n x := by
  induction x generalizing n with
  | nil => rfl
  | cons b x ih =>
      simp only [List.length_cons] at h
      rw [spread, spread, textsAt_cons_ne rest (by omega), ih (by omega)]

theorem spread_eq_keptFrom {splices : List Splice} {n : Nat} {x : Bytes}
    (h : ∀ s ∈ splices, s.offset < n ∨ n + x.length ≤ s.offset) :
    spread splices n x = keptFrom n x := by
  induction splices with
  | nil =>
      induction x generalizing n with
      | nil => rfl
      | cons b x ih => simp [spread, keptFrom, textsAt, ih]
  | cons s rest ih =>
      rw [spread_cons_outside rest (h s List.mem_cons_self)]
      exact ih fun u hu => h u (List.mem_cons_of_mem s hu)

theorem spreadAll_cons_same (s : Splice) (rest : List Splice) (y : Bytes) :
    spreadAll (s :: rest) s.offset y = insertion s.text ++ spreadAll rest s.offset y := by
  cases y with
  | nil => simp [spreadAll, spread, textsAt_cons_self]
  | cons b y =>
      have hin : spread (s :: rest) (s.offset + 1) y = spread rest (s.offset + 1) y :=
        spread_cons_outside rest (by omega)
      simp only [spreadAll, spread, textsAt_cons_self, hin, Traced.insertion_append,
        List.length_cons, List.append_assoc]
      rw [textsAt_cons_ne rest (by omega)]

/-- The first splice of a list cuts the code at its offset and goes before the others there. -/
theorem spreadAll_cons {s : Splice} {n : Nat} {x : Bytes} (rest : List Splice) (y : Bytes)
    (h : s.offset = n + x.length) :
    spreadAll (s :: rest) n (x ++ y) =
      spread rest n x ++ insertion s.text ++ spreadAll rest s.offset y := by
  induction x generalizing n with
  | nil =>
      obtain rfl : s.offset = n := by simpa using h
      simpa [spread] using spreadAll_cons_same s rest y
  | cons b x ih =>
      simp only [List.length_cons] at h
      have hstep := ih (n := n + 1) (by omega)
      simp only [spreadAll, List.length_append, List.length_cons, List.cons_append,
        spread] at hstep ⊢
      rw [textsAt_cons_ne rest (by omega),
        show n + (x.length + y.length + 1) = n + 1 + (x.length + y.length) by omega]
      simp only [List.append_assoc, List.cons_append] at hstep ⊢
      rw [hstep]

/-! ## Applying splices -/

/-- What inserting in ascending order of offset gives. -/
theorem insertSorted_eq {splices : List Splice} {pos : Nat} {code : Bytes}
    (hsorted : splices.Pairwise fun a b => a.offset ≤ b.offset)
    (hrange : ∀ s ∈ splices, pos ≤ s.offset ∧ s.offset ≤ pos + code.length) :
    insertSorted pos code splices = Traced.text (spreadAll splices pos code) := by
  induction splices generalizing pos code with
  | nil => simp [insertSorted, spreadAll, textsAt, spread_eq_keptFrom]
  | cons s rest ih =>
      obtain ⟨hlo, hhi⟩ := hrange s List.mem_cons_self
      obtain ⟨hfirst, htail⟩ := List.pairwise_cons.mp hsorted
      have hlen : (code.take (s.offset - pos)).length = s.offset - pos := by
        rw [List.length_take]; omega
      have hkept : spread rest pos (code.take (s.offset - pos)) =
          keptFrom pos (code.take (s.offset - pos)) := by
        apply spread_eq_keptFrom
        intro u hu
        have := hfirst u hu
        omega
      have hrest : insertSorted s.offset (code.drop (s.offset - pos)) rest =
          Traced.text (spreadAll rest s.offset (code.drop (s.offset - pos))) := by
        apply ih htail
        intro u hu
        have hle := hfirst u hu
        have hbound := hrange u (List.mem_cons_of_mem s hu)
        rw [List.length_drop]
        omega
      rw [insertSorted, hrest]
      conv => rhs; rw [← List.take_append_drop (s.offset - pos) code]
      rw [spreadAll_cons rest _ (by omega), hkept]
      simp

/-- Whether one splice may stand before another when they are sorted by offset. -/
private def offsetLe (a b : Splice) : Bool := a.offset ≤ b.offset

private theorem offsetLe_trans (a b c : Splice) (hab : offsetLe a b) (hbc : offsetLe b c) :
    offsetLe a c := by
  simp only [offsetLe, decide_eq_true_eq] at *
  omega

private theorem offsetLe_total (a b : Splice) : offsetLe a b || offsetLe b a := by
  simp only [offsetLe, Bool.or_eq_true, decide_eq_true_eq]
  omega

/-- Sorting by offset keeps the splices of each offset in their order. -/
theorem textsAt_mergeSort (splices : List Splice) (n : Nat) :
    textsAt (splices.mergeSort fun a b => a.offset ≤ b.offset) n = textsAt splices n := by
  have hpair : (splices.filter (·.offset = n)).Pairwise fun a b => offsetLe a b := by
    rw [List.pairwise_filter]
    apply List.pairwise_of_forall
    intro a b ha hb
    simp only [offsetLe, decide_eq_true_eq] at *
    omega
  have hsub : (splices.filter (·.offset = n)).Sublist (splices.mergeSort offsetLe) :=
    List.sublist_mergeSort offsetLe_trans offsetLe_total hpair List.filter_sublist
  have heq : splices.filter (·.offset = n) =
      (splices.mergeSort offsetLe).filter (·.offset = n) := by
    apply List.Sublist.eq_of_length
    · simpa using hsub.filter (·.offset = n)
    · exact ((List.mergeSort_perm splices _).filter _).length_eq.symm
  unfold textsAt
  rw [heq]
  rfl

/-- Splices whose offsets lie in the code come out where their offsets say, texts at one offset in
the order of the list. -/
theorem applySplices_eq {code : Bytes} {splices : List Splice}
    (h : ∀ s ∈ splices, s.offset ≤ code.length) :
    applySplices code splices = Traced.text (spreadAll splices 0 code) := by
  have hsorted : (splices.mergeSort fun a b => a.offset ≤ b.offset).Pairwise
      fun a b => a.offset ≤ b.offset := by
    have hp := List.pairwise_mergeSort offsetLe_trans offsetLe_total splices
    exact hp.imp fun hab => by simpa [offsetLe] using hab
  rw [applySplices, insertSorted_eq hsorted]
  · rw [spreadAll, spreadAll, spread_congr (textsAt_mergeSort splices), textsAt_mergeSort]
  · intro s hs
    have := h s (List.mem_mergeSort.mp hs)
    omega

end ComponentCompiler.Script
