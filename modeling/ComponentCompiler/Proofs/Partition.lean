import ComponentCompiler.Proofs.Constructor
import Mathlib

/-!
# The tokens of a script cover it

`Scans ctx n x r ts` says that the scanner, standing at offset `n` in the context `ctx` before the
text `x`, with `r` behind it, reads the tokens `ts` out of `x`. It differs from `Reads` in that
white space gives tokens as well, so it determines the tokens completely. One step takes at least
one byte and never more than there are, and a token that takes a run of bytes takes all of it;
everything here follows from these two facts.
-/

namespace ComponentCompiler.Script

/-! ## Tokens that take a whole run -/

/-- The bytes that a token of a class runs over: white space, an identifier or a number. -/
def runBytes : Kind → UInt8 → Bool
  | .space => isSpaceByte
  | .ident => isIdentByte
  | .number => fun b => isIdentByte b || b == Ascii.dot
  | _ => fun _ => false

/-- White space, identifiers and numbers go on as far as their bytes do. -/
theorem length_run_of_lexeme {ctx : Context} {c : UInt8} {rest : Bytes} {k : Kind} {m : Nat}
    (h : lexeme ctx c rest = (k, m)) (hk : k = .space ∨ k = .ident ∨ k = .number) :
    (rest.takeWhile (runBytes k)).length = m := by
  unfold lexeme at h
  repeat' split at h
  all_goals
    obtain ⟨rfl, rfl⟩ := Prod.mk.inj h
    first
      | rfl
      | simp at hk

/-- What a run of bytes stops at is none of them. -/
theorem head_of_length_takeWhile {p : UInt8 → Bool} {tl s : Bytes}
    (h : ((tl ++ s).takeWhile p).length = tl.length) {c : UInt8} (hc : s.head? = some c) :
    p c = false := by
  have hsplit : (tl ++ s).takeWhile p ++ (tl ++ s).dropWhile p = tl ++ s :=
    List.takeWhile_append_dropWhile
  have hrest : (tl ++ s).dropWhile p = s := (List.append_inj hsplit h).2
  have hstop := List.head?_dropWhile_not p (tl ++ s)
  rw [hrest, hc] at hstop
  exact hstop

/-- The token `b` may stand right behind the token `a`: it does not go on with the identifier, the
number or the white space that `a` is. -/
def Token.Apart (a b : Token) : Prop :=
  ¬((a.kind = .ident ∨ a.kind = .number) ∧ b.kind = .ident) ∧ ¬(a.kind = .space ∧ b.kind = .space)

/-- Two tokens that are read one behind the other. -/
theorem Token.apart_of_lexeme {ctx ctx' : Context} {a b : UInt8} {tl s : Bytes} {k k' : Kind}
    {m : Nat} (h : lexeme ctx a (tl ++ b :: s) = (k, tl.length)) (h' : lexeme ctx' b s = (k', m))
    (n n' : Nat) (text text' : Bytes) :
    Token.Apart ⟨k, n, text⟩ ⟨k', n', text'⟩ := by
  have hstop :
      ∀ k₀, k = k₀ → (k₀ = .space ∨ k₀ = .ident ∨ k₀ = .number) → runBytes k₀ b = false := by
    rintro k₀ rfl hk
    exact head_of_length_takeWhile (length_run_of_lexeme h hk) rfl
  constructor
  · rintro ⟨hk | hk, rfl⟩
    · have hb := hstop .ident hk (by simp)
      rw [runBytes, isIdentByte_of_lexeme h'] at hb
      cases hb
    · have hb := hstop .number hk (by simp)
      simp [runBytes, isIdentByte_of_lexeme h'] at hb
  · rintro ⟨hk, rfl⟩
    have hb := hstop .space hk (by simp)
    rw [runBytes, isSpaceByte_of_lexeme (by rw [h'])] at hb
    cases hb

/-! ## Scanning a stretch -/

/-- The tokens of the stretch `x` of a source, which starts at offset `n` in the context `ctx` and
is followed by `r`. -/
inductive Scans : Context → Nat → Bytes → Bytes → List Token → Prop
  | nil (ctx : Context) (n : Nat) (r : Bytes) : Scans ctx n [] r []
  | cons {ctx : Context} {n : Nat} {b : UInt8} {tl x r : Bytes} {k : Kind} {ts : List Token}
      (hlex : lexeme ctx b (tl ++ (x ++ r)) = (k, tl.length))
      (h : Scans (ctx.advance ⟨k, n, b :: tl⟩) (n + (tl.length + 1)) x r ts) :
      Scans ctx n (b :: (tl ++ x)) r (⟨k, n, b :: tl⟩ :: ts)

/-- A whole text is a stretch with nothing behind it. -/
theorem scans_scanFrom (ctx : Context) (n : Nat) (s : Bytes) :
    Scans ctx n s [] (scanFrom ctx n s) := by
  induction s using shorter_induction generalizing ctx n with
  | nil =>
      rw [scanFrom]
      exact .nil _ _ _
  | cons c rest ih =>
      obtain ⟨k, m, hlex⟩ : ∃ k m, lexeme ctx c rest = (k, m) := ⟨_, _, rfl⟩
      have hm : (rest.take m).length = m := by
        have := lexeme_le ctx c rest
        rw [hlex] at this
        exact List.length_take_of_le this
      have hrec := ih (rest.drop m) (by simp) (ctx.advance ⟨k, n, c :: rest.take m⟩) (n + (m + 1))
      rw [scanFrom_cons hlex]
      conv => arg 3; rw [← List.take_append_drop m rest]
      refine .cons ?_ (by rwa [hm])
      rw [List.append_nil, List.take_append_drop, hm, hlex]

theorem scans_scan (src : Bytes) : Scans {} 0 src [] (scan src) := scans_scanFrom {} 0 src

namespace Scans

variable {ctx : Context} {n : Nat} {x y r : Bytes} {t : Token} {ts us : List Token}

/-- The tokens that can be read out of a text are the tokens of the text. -/
theorem scanFrom_eq (h : Scans ctx n x [] ts) : scanFrom ctx n x = ts := by
  generalize hr : ([] : Bytes) = r at h
  induction h with
  | nil ctx n r => rw [scanFrom]
  | @cons ctx n b tl x r k ts hlex h ih =>
      subst hr
      rw [List.append_nil] at hlex
      rw [scanFrom_cons hlex, List.take_left, List.drop_left, ih rfl]

theorem trans (h : Scans ctx n x (y ++ r) ts) (h' : Scans (ctx.after ts) (n + x.length) y r us) :
    Scans ctx n (x ++ y) r (ts ++ us) := by
  generalize hs : y ++ r = s at h
  induction h with
  | nil ctx n s => simpa using h'
  | @cons ctx n b tl x s k ts hlex h ih =>
      subst hs
      rw [List.cons_append, List.append_assoc, List.cons_append]
      refine .cons (by rwa [List.append_assoc]) (ih ?_ rfl)
      rwa [List.length_cons, List.length_append,
        show n + (tl.length + x.length + 1) = n + (tl.length + 1) + x.length by omega] at h'

/-- A stretch is cut between two tokens. -/
theorem cut (h : Scans ctx n x r (ts ++ us)) :
    ∃ y z, x = y ++ z ∧ Scans ctx n y (z ++ r) ts ∧ Scans (ctx.after ts) (n + y.length) z r us := by
  induction ts generalizing ctx n x with
  | nil => exact ⟨[], x, rfl, .nil _ _ _, h⟩
  | cons t ts ih =>
      cases h with
      | @cons _ _ b tl x _ k _ hlex h =>
          obtain ⟨y, z, rfl, hy, hz⟩ := ih h
          refine ⟨b :: (tl ++ y), z, by simp, .cons (by simpa using hlex) hy, ?_⟩
          rwa [List.length_cons, List.length_append,
            show n + (tl.length + y.length + 1) = n + (tl.length + 1) + y.length by omega]

/-- A stretch is cut in front of a token and behind it. -/
theorem split (h : Scans ctx n x r (ts ++ t :: us)) :
    ∃ y b tl z, t.text = b :: tl ∧ x = y ++ (t.text ++ z) ∧ t.start = n + y.length ∧
      Scans ctx n y (t.text ++ (z ++ r)) ts ∧
      lexeme (ctx.after ts) b (tl ++ (z ++ r)) = (t.kind, tl.length) ∧
      Scans ((ctx.after ts).advance t) t.stop z r us := by
  obtain ⟨y, w, rfl, hy, hw⟩ := h.cut
  cases hw with
  | @cons _ _ b tl z _ k _ hlex hz =>
      exact ⟨y, b, tl, z, rfl, rfl, rfl, by simpa using hy, hlex, hz⟩

/-- Where the tokens of a stretch stand. -/
theorem covers (h : Scans ctx n x r ts) (ht : t ∈ ts) :
    t.text ≠ [] ∧ ∃ u v, x = u ++ (t.text ++ v) ∧ t.start = n + u.length := by
  obtain ⟨before, behind, rfl⟩ := List.append_of_mem ht
  obtain ⟨y, b, tl, z, htext, hx, hstart, _, _, _⟩ := h.split
  exact ⟨by rw [htext]; exact List.cons_ne_nil b tl, y, z, hx, hstart⟩

theorem le_start (h : Scans ctx n x r ts) (ht : t ∈ ts) : n ≤ t.start := by
  obtain ⟨_, u, v, _, hstart⟩ := h.covers ht
  omega

theorem pairwise_start (h : Scans ctx n x r ts) : ts.Pairwise fun a b => a.start < b.start := by
  induction h with
  | nil => exact .nil
  | cons hlex h ih =>
      refine .cons (fun t ht => ?_) ih
      have := h.le_start ht
      simp only
      omega

theorem pairwise_stop (h : Scans ctx n x r ts) : ts.Pairwise fun a b => a.stop ≤ b.start := by
  induction h with
  | nil => exact .nil
  | cons hlex h ih => exact .cons (fun t ht => h.le_start ht) ih

/-- The texts of the tokens are the stretch. -/
theorem flatMap_text (h : Scans ctx n x r ts) : ts.flatMap Token.text = x := by
  induction h with
  | nil => rfl
  | cons hlex h ih => rw [List.flatMap_cons, ih, List.cons_append]

/-- Each token takes at least one byte. -/
theorem length_le (h : Scans ctx n x r ts) : ts.length ≤ x.length := by
  induction h with
  | nil => exact Nat.le_refl 0
  | cons hlex h ih =>
      simp only [List.length_cons, List.length_append]
      omega

/-- No token goes on with the one in front of it. -/
theorem isChain_apart (h : Scans ctx n x r ts) : ts.IsChain Token.Apart := by
  induction h with
  | nil => exact .nil
  | @cons ctx n b tl x r k ts hlex h ih =>
      refine List.isChain_cons.mpr ⟨fun u hu => ?_, ih⟩
      cases h with
      | nil => cases hu
      | cons hlex' h =>
          obtain rfl := Option.some.inj hu
          rw [List.cons_append, List.append_assoc] at hlex
          exact Token.apart_of_lexeme hlex hlex' ..

end Scans

/-- Tokens one behind the other, from the offset `n` up to the offset `m`. -/
def Contiguous : Nat → List Token → Nat → Prop
  | n, [], m => n = m
  | n, t :: ts, m => t.start = n ∧ Contiguous t.stop ts m

theorem Scans.contiguous {ctx : Context} {n : Nat} {x r : Bytes} {ts : List Token}
    (h : Scans ctx n x r ts) : Contiguous n ts (n + x.length) := by
  induction h with
  | nil => rfl
  | @cons ctx n b tl x r k ts hlex h ih =>
      refine ⟨rfl, ?_⟩
      rwa [List.length_cons, List.length_append,
        show n + (tl.length + x.length + 1) = n + (tl.length + 1) + x.length by omega]

/-- The tokens of any source partition it. They are one behind the other from its start to its end,
none of them is empty, each holds the bytes between its offsets and all of them together are the
source, so there are no more tokens than bytes. Identifiers, numbers and white space are as long as
they can be. -/
theorem scan_partition (src : Bytes) :
    Contiguous 0 (scan src) src.length ∧
    (scan src).flatMap Token.text = src ∧
    (∀ t ∈ scan src, t.text ≠ [] ∧ slice src t.start t.stop = t.text) ∧
    (scan src).length ≤ src.length ∧
    (scan src).IsChain fun a b =>
      ¬((a.kind = .ident ∨ a.kind = .number) ∧ b.kind = .ident) ∧
        ¬(a.kind = .space ∧ b.kind = .space) := by
  have hscans := scans_scan src
  refine ⟨by simpa using hscans.contiguous, hscans.flatMap_text, fun t ht => ?_, hscans.length_le,
    hscans.isChain_apart⟩
  obtain ⟨hne, u, v, hsrc, hstart⟩ := hscans.covers ht
  refine ⟨hne, ?_⟩
  rw [Nat.zero_add] at hstart
  conv => lhs; arg 1; rw [hsrc]
  rw [Token.stop, hstart, slice_append]

/-- A string that is not closed and ends with a backslash still ends with the source. -/
theorem scan_partition_unclosed :
    (⟨.string, 7, [Ascii.apostrophe, 0xff, Ascii.backslash]⟩ : Token) ∈
      scan (Bytes.lit "x  1.a/'" ++ [0xff, Ascii.backslash]) ∧
    Contiguous 0 (scan (Bytes.lit "x  1.a/'" ++ [0xff, Ascii.backslash])) 10 ∧
    slice (Bytes.lit "x  1.a/'" ++ [0xff, Ascii.backslash]) 7 10 =
      [Ascii.apostrophe, 0xff, Ascii.backslash] := by
  have hmem : (⟨.string, 7, [Ascii.apostrophe, 0xff, Ascii.backslash]⟩ : Token) ∈
      scan (Bytes.lit "x  1.a/'" ++ [0xff, Ascii.backslash]) := by decide +kernel
  obtain ⟨hcontiguous, _, htokens, _⟩ :=
    scan_partition (Bytes.lit "x  1.a/'" ++ [0xff, Ascii.backslash])
  exact ⟨hmem, hcontiguous, (htokens _ hmem).2⟩

end ComponentCompiler.Script
