import ComponentCompiler.Proofs.Reading
import ComponentCompiler.Proofs.Splice

/-!
# Tokens of a traced text

A token of a traced text may come from the code, from an inserted text, or be a mixture of both.
`Aligned` says that there is no mixture, and that the tokens which come from the code are the tokens
of the code. `Carries` adds that the scanner reads these tokens; like `Reads` it composes, so a
woven text is treated stretch by stretch.
-/

namespace ComponentCompiler.Script

open Traced (insertion keptFrom)

/-- The same token at another offset. -/
def Token.moveTo (t : Token) (n : Nat) : Token := ⟨t.kind, n, t.text⟩

@[simp] theorem Token.moveTo_kind (t : Token) (n : Nat) : (t.moveTo n).kind = t.kind := rfl

@[simp] theorem Token.moveTo_text (t : Token) (n : Nat) : (t.moveTo n).text = t.text := rfl

@[simp] theorem Token.moveTo_isPunct (t : Token) (n : Nat) (b : UInt8) :
    (t.moveTo n).isPunct b = t.isPunct b := rfl

@[simp] theorem Token.moveTo_isSignificant (t : Token) (n : Nat) :
    (t.moveTo n).isSignificant = t.isSignificant := rfl

/-- The bytes of `piece` stand in the traced text `tr`, which starts at offset `n`, from
offset `i` on. -/
def StandsAt (tr : List Traced) (n : Nat) (piece : List Traced) (i : Nat) : Prop :=
  ∃ u v, tr = u ++ (piece ++ v) ∧ i = n + u.length

/-- The tokens of a traced text against the tokens of the code: each token of the text is one of the
code, byte for byte, or is inserted as a whole, and no token of the code is left out. -/
inductive Aligned (tr : List Traced) (n : Nat) : List Token → List Token → Prop
  | nil : Aligned tr n [] []
  | kept {t : Token} {i : Nat} {ts' ts : List Token}
      (hstands : StandsAt tr n (keptFrom t.start t.text) i) (h : Aligned tr n ts' ts) :
      Aligned tr n (t.moveTo i :: ts') (t :: ts)
  | inserted {t : Token} {ts' ts : List Token}
      (hstands : StandsAt tr n (insertion t.text) t.start) (h : Aligned tr n ts' ts) :
      Aligned tr n (t :: ts') ts

section

variable {tr us : List Traced} {n : Nat} {ts ts' vs vs' : List Token}

theorem StandsAt.append_left {piece : List Traced} {i : Nat} (h : StandsAt tr n piece i)
    (us : List Traced) : StandsAt (tr ++ us) n piece i := by
  obtain ⟨u, v, rfl, hi⟩ := h
  exact ⟨u, v ++ us, by simp, hi⟩

theorem StandsAt.append_right {piece : List Traced} {i : Nat}
    (h : StandsAt us (n + tr.length) piece i) : StandsAt (tr ++ us) n piece i := by
  obtain ⟨u, v, rfl, hi⟩ := h
  exact ⟨tr ++ u, v, by simp, by rw [hi, List.length_append]; omega⟩

theorem StandsAt.cons {piece : List Traced} {i : Nat} (h : StandsAt tr (n + 1) piece i)
    (b : Traced) : StandsAt (b :: tr) n piece i := by
  have hone : StandsAt tr (n + [b].length) piece i := h
  exact hone.append_right

theorem Aligned.imp (h : Aligned tr n ts' ts) {m : Nat}
    (himp : ∀ piece i, StandsAt tr n piece i → StandsAt us m piece i) : Aligned us m ts' ts := by
  induction h with
  | nil => exact .nil
  | kept hstands h ih => exact .kept (himp _ _ hstands) ih
  | inserted hstands h ih => exact .inserted (himp _ _ hstands) ih

theorem Aligned.concat (h : Aligned tr n ts' ts) (h' : Aligned tr n vs' vs) :
    Aligned tr n (ts' ++ vs') (ts ++ vs) := by
  induction h with
  | nil => exact h'
  | kept hstands h ih => exact .kept hstands ih
  | inserted hstands h ih => exact .inserted hstands ih

/-- Traced texts one behind the other. -/
theorem Aligned.append (h : Aligned tr n ts' ts) (h' : Aligned us (n + tr.length) vs' vs) :
    Aligned (tr ++ us) n (ts' ++ vs') (ts ++ vs) :=
  (h.imp fun _ _ hs => hs.append_left us).concat (h'.imp fun _ _ hs => hs.append_right)

/-- Comments do not matter. -/
theorem Aligned.significant (h : Aligned tr n ts' ts) :
    Aligned tr n (significant ts') (significant ts) := by
  induction h with
  | nil => exact .nil
  | @kept t i ts' ts hstands h ih =>
      cases hs : t.isSignificant with
      | true => simpa [Script.significant, hs] using ih.kept hstands
      | false => simpa [Script.significant, hs] using ih
  | @inserted t ts' ts hstands h ih =>
      cases hs : t.isSignificant with
      | true => simpa [Script.significant, hs] using ih.inserted hstands
      | false => simpa [Script.significant, hs] using ih

end

/-! ## Where a token comes from -/

/-- The bytes of a traced text that a token of it covers. -/
def Token.span (t : Token) (tr : List Traced) : List Traced := (tr.drop t.start).take t.text.length

/-- The token of the code that a token of a traced text is, if all its bytes are kept from
consecutive offsets of the code. -/
def Token.origin? (tr : List Traced) (t : Token) : Option Token :=
  match t.span tr with
  | .kept i _ :: _ => if t.span tr = keptFrom i t.text then some (t.moveTo i) else none
  | _ => none

theorem Token.span_eq {tr : List Traced} {t : Token} {piece : List Traced}
    (h : StandsAt tr 0 piece t.start) (hlen : piece.length = t.text.length) :
    t.span tr = piece := by
  obtain ⟨u, v, rfl, hi⟩ := h
  rw [Token.span, hi, ← hlen, Nat.zero_add, List.drop_left, List.take_left]

theorem Token.origin?_moveTo {tr : List Traced} {t : Token} {i : Nat} (hne : t.text ≠ [])
    (h : StandsAt tr 0 (keptFrom t.start t.text) i) : (t.moveTo i).origin? tr = some t := by
  have hspan : (t.moveTo i).span tr = keptFrom t.start t.text :=
    Token.span_eq h (Traced.length_keptFrom t.start t.text)
  cases htext : t.text with
  | nil => exact absurd htext hne
  | cons b tl =>
      have hcons : (t.moveTo i).span tr = .kept t.start b :: keptFrom (t.start + 1) tl := by
        rw [hspan, htext, keptFrom]
      have hmove : (t.moveTo i).moveTo t.start = t := rfl
      rw [Token.origin?, hcons]
      simp only
      rw [← hcons, hmove]
      exact if_pos hspan

theorem Token.origin?_inserted {tr : List Traced} {t : Token}
    (h : StandsAt tr 0 (insertion t.text) t.start) : t.origin? tr = none := by
  rw [Token.origin?, Token.span_eq h (Traced.length_insertion t.text)]
  cases t.text with
  | nil => rfl
  | cons b tl => rfl

/-- The tokens of an aligned text that come from the code are those of the code, and the others are
inserted as a whole. -/
theorem Aligned.origins {tr : List Traced} {ts' ts : List Token} (h : Aligned tr 0 ts' ts)
    (hne : ∀ t ∈ ts, t.text ≠ []) :
    ts'.filterMap (Token.origin? tr) = ts ∧
      ∀ t ∈ ts', t.origin? tr = none → t.span tr = insertion t.text := by
  induction h with
  | nil => exact ⟨rfl, fun t ht => by cases ht⟩
  | @kept t i ts' ts hstands h ih =>
      obtain ⟨horigins, hrest⟩ := ih fun u hu => hne u (List.mem_cons_of_mem t hu)
      have horigin := Token.origin?_moveTo (hne t List.mem_cons_self) hstands
      refine ⟨by rw [List.filterMap_cons_some horigin, horigins], fun u hu hnone => ?_⟩
      rcases List.mem_cons.mp hu with rfl | hu
      · rw [horigin] at hnone
        cases hnone
      · exact hrest u hu hnone
  | @inserted t ts' ts hstands h ih =>
      obtain ⟨horigins, hrest⟩ := ih hne
      refine ⟨by rw [List.filterMap_cons_none (Token.origin?_inserted hstands), horigins], ?_⟩
      intro u hu hnone
      rcases List.mem_cons.mp hu with rfl | hu
      · exact Token.span_eq hstands (Traced.length_insertion u.text)
      · exact hrest u hu hnone

/-! ## Traced texts that are read -/

/-- The scanner, at offset `n` in the context `ctx`, reads the tokens `ts'` out of the traced text
`tr`, which `r` follows, and the tokens of the code among them are `ts`. -/
structure Carries (ctx : Context) (n : Nat) (tr : List Traced) (r : Bytes) (ts' ts : List Token) :
    Prop where
  reads : Reads ctx n (Traced.text tr) r ts'
  aligned : Aligned tr n ts' ts

namespace Carries

variable {ctx : Context} {n : Nat} {tr us : List Traced} {r : Bytes} {ts ts' vs vs' : List Token}

theorem trans (h : Carries ctx n tr (Traced.text us ++ r) ts' ts)
    (h' : Carries (ctx.after ts') (n + tr.length) us r vs' vs) :
    Carries ctx n (tr ++ us) r (ts' ++ vs') (ts ++ vs) where
  reads := by
    rw [Traced.text_append]
    refine h.reads.trans ?_
    rw [Traced.length_text]
    exact h'.reads
  aligned := h.aligned.append h'.aligned

/-- An inserted text carries nothing of the code. -/
theorem insertion {x : Bytes} (h : Reads ctx n x r ts) :
    Carries ctx n (Traced.insertion x) r ts [] where
  reads := by rwa [Traced.text_insertion]
  aligned := by
    have hall : ∀ t ∈ ts, StandsAt (Traced.insertion x) n (Traced.insertion t.text) t.start := by
      intro t ht
      obtain ⟨_, u, v, rfl, hu⟩ := h.covers ht
      exact ⟨Traced.insertion u, Traced.insertion v, by simp, by simpa using hu⟩
    clear h
    induction ts with
    | nil => exact .nil
    | cons t ts ih =>
        exact .inserted (hall t List.mem_cons_self)
          (ih fun u hu => hall u (List.mem_cons_of_mem t hu))

/-- A token of the code at another offset. -/
theorem token {b : UInt8} {tl : Bytes} {k : Kind} (hk : k ≠ .space)
    (hlex : lexeme ctx b (tl ++ r) = (k, tl.length)) (i : Nat) :
    Carries ctx n (keptFrom i (b :: tl)) r [⟨k, n, b :: tl⟩] [⟨k, i, b :: tl⟩] where
  reads := by
    rw [Traced.text_keptFrom]
    exact .single hk hlex
  aligned := .kept (t := ⟨k, i, b :: tl⟩) ⟨[], [], by simp, rfl⟩ .nil

/-- White space of the code. -/
theorem space {b : UInt8} (hb : isSpaceByte b) (i : Nat) (h : Carries ctx (n + 1) tr r ts' ts) :
    Carries ctx n (.kept i b :: tr) r ts' ts where
  reads := .space hb h.reads
  aligned := h.aligned.imp fun _ _ hs => hs.cons (.kept i b)

end Carries

end ComponentCompiler.Script
