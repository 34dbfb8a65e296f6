import ComponentCompiler.Script.Scan

/-!
# What a token depends on

How far a token reaches is decided by its own bytes and at most the one byte behind it. The loops
that measure the tokens are opened here byte by byte, and `lexeme_stable` says when the text behind
a token, and the context in front of it, may be exchanged without changing the token.
-/

namespace ComponentCompiler.Script

/-- Induction on byte strings where the rest after the first byte may be cut further. -/
theorem shorter_induction {P : Bytes → Prop} (nil : P [])
    (cons : ∀ (c : UInt8) (s : Bytes), (∀ u : Bytes, u.length ≤ s.length → P u) → P (c :: s))
    (s : Bytes) : P s := by
  induction hl : s.length using Nat.strongRecOn generalizing s with
  | ind l ih =>
      cases s with
      | nil => exact nil
      | cons c s =>
          refine cons c s fun u hu => ih u.length ?_ u rfl
          simp only [List.length_cons] at hl
          omega

/-! ## The loops, byte by byte -/

theorem stringRest_cons {q : UInt8} (hq : q ≠ Ascii.newline) (c : UInt8) (s : Bytes) :
    stringRest q (c :: s) =
      if c = Ascii.backslash then 1 + (s.take 1).length + stringRest q (s.drop 1)
      else if c = q then 1
      else if c = Ascii.newline then 0
      else 1 + stringRest q s := by
  cases s with
  | nil =>
      simp only [stringRest, List.take_nil, List.drop_nil, List.length_nil]
      by_cases hc : c = Ascii.newline
      · subst hc
        rw [if_pos rfl, if_neg (by decide), if_neg (Ne.symm hq)]
      · simp [hc]
  | cons d s => simp [stringRest]

theorem chunkRest_cons (c : UInt8) (s : Bytes) :
    chunkRest (c :: s) =
      if c = Ascii.backslash then
        (1 + (s.take 1).length + (chunkRest (s.drop 1)).1, (chunkRest (s.drop 1)).2)
      else if c = Ascii.backquote then (1, false)
      else if c = Ascii.dollar ∧ s.head? = some Ascii.openBrace then (2, true)
      else (1 + (chunkRest s).1, (chunkRest s).2) := by
  cases s with
  | nil => simp [chunkRest]
  | cons d s => simp [chunkRest]

theorem blockCommentRest_cons (c : UInt8) (s : Bytes) :
    blockCommentRest (c :: s) =
      if c = Ascii.star ∧ s.head? = some Ascii.slash then 2 else 1 + blockCommentRest s := by
  cases s with
  | nil => simp [blockCommentRest]
  | cons d s => simp [blockCommentRest]

/-- Whether a regular expression is inside a bracketed class after the byte `c`. -/
def classAfter (inClass : Bool) (c : UInt8) : Bool :=
  if c = Ascii.openBracket then true else if c = Ascii.closeBracket then false else inClass

theorem regexRest?_cons (inClass : Bool) (c : UInt8) (s : Bytes) :
    regexRest? inClass (c :: s) =
      if c = Ascii.backslash then
        match s with
        | [] => none
        | _ :: rest => (regexRest? inClass rest).map (2 + ·)
      else if c = Ascii.newline then none
      else if c = Ascii.slash ∧ ¬inClass then some (1 + (s.takeWhile isIdentByte).length)
      else (regexRest? (classAfter inClass c) s).map (1 + ·) := by
  cases s with
  | nil =>
      by_cases hb : c = Ascii.backslash
      · rw [if_pos hb, hb]
        simp [regexRest?, show Ascii.backslash ≠ Ascii.slash by decide]
      · by_cases hn : c = Ascii.newline
        · rw [if_neg hb, if_pos hn, hn]
          simp [regexRest?, show Ascii.newline ≠ Ascii.slash by decide]
        · simp [regexRest?, hb, hn]
  | cons d s => simp only [regexRest?, classAfter]

theorem regexRest?_pos {inClass : Bool} {s : Bytes} {n : Nat} (h : regexRest? inClass s = some n) :
    0 < n := by
  cases s with
  | nil => simp [regexRest?] at h
  | cons c s =>
      rw [regexRest?_cons] at h
      split at h
      · split at h
        · simp at h
        · obtain ⟨m, _, rfl⟩ := Option.map_eq_some_iff.mp h
          omega
      · split at h
        · simp at h
        · split at h
          · injection h
            omega
          · obtain ⟨m, _, rfl⟩ := Option.map_eq_some_iff.mp h
            omega

/-- Whether the bytes after an opening quote `q` end with the quote that closes the string, and hold
no earlier one. -/
def stringClosed (q : UInt8) : Bytes → Bool
  | [] => false
  | c :: s =>
    if c = Ascii.backslash then
      match s with
      | [] => false
      | _ :: rest => stringClosed q rest
    else if c = q then s.isEmpty
    else if c = Ascii.newline then false
    else stringClosed q s

theorem stringClosed_cons (q c : UInt8) (s : Bytes) :
    stringClosed q (c :: s) =
      if c = Ascii.backslash then stringClosed q (s.drop 1)
      else if c = q then s.isEmpty
      else if c = Ascii.newline then false
      else stringClosed q s := by
  cases s with
  | nil => simp [stringClosed]
  | cons d s => simp [stringClosed]

/-! ## Exchanging the text behind a token -/

/-- `r'` may stand behind a token in the place of `r`: it continues no identifier or number that `r`
does not continue, and a line break is still there. -/
structure Follows (r r' : Bytes) : Prop where
  ident : ∀ b, r'.head? = some b → isIdentByte b → ∃ a, r.head? = some a ∧ isIdentByte a
  dot : r'.head? = some Ascii.dot → r.head? = some Ascii.dot
  newline : r.head? = some Ascii.newline → r'.head? = some Ascii.newline

theorem Follows.refl (r : Bytes) : Follows r r :=
  ⟨fun b hb hi => ⟨b, hb, hi⟩, id, id⟩

theorem Follows.of_head {r r' : Bytes} (h : r'.head? = r.head?) : Follows r r' where
  ident b hb hi := ⟨b, h ▸ hb, hi⟩
  dot hd := h ▸ hd
  newline hn := h.trans hn

theorem takeWhile_stable {p : UInt8 → Bool} {tl r r' : Bytes}
    (h : ((tl ++ r).takeWhile p).length = tl.length)
    (hnext : ∀ b, r'.head? = some b → p b → ∃ a, r.head? = some a ∧ p a) :
    ((tl ++ r').takeWhile p).length = tl.length := by
  induction tl with
  | nil =>
      cases r' with
      | nil => rfl
      | cons b r' =>
          cases hp : p b with
          | false => simp [hp]
          | true =>
              obtain ⟨a, ha, hpa⟩ := hnext b rfl hp
              cases r with
              | nil => simp at ha
              | cons a' r =>
                  obtain rfl : a' = a := by simpa using ha
                  simp [hpa] at h
  | cons c tl ih =>
      cases hc : p c with
      | false => simp [hc] at h
      | true =>
          simp only [List.cons_append, List.takeWhile_cons, hc, if_true, List.length_cons,
            Nat.add_right_cancel_iff] at h ⊢
          exact ih h

/-- A string that ends neither at a line break nor at the end of the source is closed. -/
theorem stringClosed_of_rest {q : UInt8} (hq : q ≠ Ascii.newline) {tl r : Bytes}
    (h : stringRest q (tl ++ r) = tl.length) (hr : r ≠ []) (hn : r.head? ≠ some Ascii.newline) :
    stringClosed q tl := by
  induction tl using shorter_induction with
  | nil =>
      cases r with
      | nil => exact absurd rfl hr
      | cons b r =>
          have hb : b ≠ Ascii.newline := by simpa using hn
          rw [List.nil_append, stringRest_cons hq, List.length_nil] at h
          simp only [if_neg hb] at h
          split at h
          · omega
          · split at h <;> omega
  | cons c tl ih =>
      rw [List.cons_append, stringRest_cons hq, List.length_cons] at h
      rw [stringClosed_cons]
      by_cases hc : c = Ascii.backslash
      · rw [if_pos hc] at h ⊢
        cases tl with
        | nil =>
            cases r with
            | nil => exact absurd rfl hr
            | cons b r => simp at h; omega
        | cons d tl =>
            simp at h
            exact ih tl (by simp) (by omega)
      · rw [if_neg hc] at h ⊢
        by_cases hcq : c = q
        · rw [if_pos hcq] at h ⊢
          simpa using (show tl.length = 0 by omega)
        · rw [if_neg hcq] at h ⊢
          by_cases hcn : c = Ascii.newline
          · rw [if_pos hcn] at h
            omega
          · rw [if_neg hcn] at h ⊢
            exact ih tl (Nat.le_refl _) (by omega)

theorem stringRest_stable {q : UInt8} (hq : q ≠ Ascii.newline) {tl r r' : Bytes}
    (h : stringRest q (tl ++ r) = tl.length)
    (hend : stringClosed q tl ∨ (r'.head? = some Ascii.newline ∧ r ≠ []) ∨ (r = [] ∧ r' = [])) :
    stringRest q (tl ++ r') = tl.length := by
  induction tl using shorter_induction with
  | nil =>
      rcases hend with hc | ⟨hn, _⟩ | ⟨_, rfl⟩
      · simp [stringClosed] at hc
      · cases r' with
        | nil => simp at hn
        | cons b r' =>
            obtain rfl : b = Ascii.newline := by simpa using hn
            rw [List.nil_append, stringRest_cons hq, if_neg (by decide), if_neg (Ne.symm hq),
              if_pos rfl]
            rfl
      · rfl
  | cons c tl ih =>
      rw [List.cons_append, stringRest_cons hq, List.length_cons] at h ⊢
      rw [stringClosed_cons] at hend
      by_cases hc : c = Ascii.backslash
      · rw [if_pos hc] at h hend ⊢
        cases tl with
        | nil =>
            cases r with
            | nil =>
                rcases hend with hc | ⟨_, hr⟩ | ⟨_, rfl⟩
                · simp [stringClosed] at hc
                · exact absurd rfl hr
                · exact h
            | cons b r => simp at h; omega
        | cons d tl =>
            simp at h hend ⊢
            have hrec := ih tl (by simp) (by omega) hend
            omega
      · rw [if_neg hc] at h hend ⊢
        by_cases hcq : c = q
        · rw [if_pos hcq] at h ⊢
          exact h
        · rw [if_neg hcq] at h hend ⊢
          by_cases hcn : c = Ascii.newline
          · rw [if_pos hcn] at h
            omega
          · rw [if_neg hcn] at h hend ⊢
            have hrec := ih tl (Nat.le_refl _) (by omega) hend
            omega

theorem chunkRest_fst_pos (c : UInt8) (s : Bytes) : 0 < (chunkRest (c :: s)).1 := by
  rw [chunkRest_cons]
  split
  · dsimp only
    omega
  · split
    · simp
    · split
      · simp
      · dsimp only
        omega

theorem chunkRest_stable {tl r r' : Bytes} {opens : Bool}
    (h : chunkRest (tl ++ r) = (tl.length, opens)) (hend : r = [] → r' = []) :
    chunkRest (tl ++ r') = (tl.length, opens) := by
  -- nothing of a template literal is left only at the end of the source
  have hnil : ∀ {o : Bool}, chunkRest r = (0, o) → r' = [] ∧ r = [] := by
    intro o ho
    cases r with
    | nil => exact ⟨hend rfl, rfl⟩
    | cons b r =>
        have hpos := chunkRest_fst_pos b r
        rw [ho] at hpos
        exact absurd hpos (Nat.lt_irrefl 0)
  induction tl using shorter_induction with
  | nil =>
      obtain ⟨rfl, rfl⟩ := hnil h
      exact h
  | cons c tl ih =>
      rw [List.cons_append, chunkRest_cons, List.length_cons] at h ⊢
      by_cases hc : c = Ascii.backslash
      · rw [if_pos hc] at h ⊢
        cases tl with
        | nil =>
            cases r with
            | nil => rw [hend rfl]; exact h
            | cons b r => simp at h; omega
        | cons d tl =>
            simp at h ⊢
            have hrec := ih tl (by simp) (Prod.ext (by simp; omega) h.2)
            rw [hrec]
            simp; omega
      · rw [if_neg hc] at h ⊢
        by_cases hq : c = Ascii.backquote
        · rw [if_pos hq] at h ⊢
          exact h
        · rw [if_neg hq] at h ⊢
          by_cases hd : c = Ascii.dollar ∧ (tl ++ r).head? = some Ascii.openBrace
          · rw [if_pos hd] at h
            cases tl with
            | nil => simp at h
            | cons d tl => rw [if_pos (by simpa using hd)]; exact h
          · rw [if_neg hd] at h
            simp only [Prod.mk.injEq] at h
            have hrest : chunkRest (tl ++ r) = (tl.length, opens) :=
              Prod.ext (by simp; omega) h.2
            have hd' : ¬(c = Ascii.dollar ∧ (tl ++ r').head? = some Ascii.openBrace) := by
              cases tl with
              | nil =>
                  rw [(hnil hrest).1]
                  simp
              | cons d tl => simpa using hd
            rw [if_neg hd', ih tl (Nat.le_refl _) hrest, Nat.add_comm]

theorem blockCommentRest_stable {tl r r' : Bytes} (h : blockCommentRest (tl ++ r) = tl.length)
    (hend : r = [] → r' = []) : blockCommentRest (tl ++ r') = tl.length := by
  -- nothing of a comment is left only at the end of the source
  have hnil : blockCommentRest r = 0 → r' = [] ∧ r = [] := by
    intro h0
    cases r with
    | nil => exact ⟨hend rfl, rfl⟩
    | cons b r =>
        rw [blockCommentRest_cons] at h0
        split at h0 <;> omega
  induction tl with
  | nil =>
      obtain ⟨rfl, rfl⟩ := hnil h
      rfl
  | cons c tl ih =>
      rw [List.cons_append, blockCommentRest_cons, List.length_cons] at h ⊢
      by_cases hc : c = Ascii.star ∧ (tl ++ r).head? = some Ascii.slash
      · rw [if_pos hc] at h
        cases tl with
        | nil => simp at h
        | cons d tl => rw [if_pos (by simpa using hc)]; exact h
      · rw [if_neg hc] at h
        have hrest : blockCommentRest (tl ++ r) = tl.length := by omega
        have hc' : ¬(c = Ascii.star ∧ (tl ++ r').head? = some Ascii.slash) := by
          cases tl with
          | nil =>
              rw [(hnil hrest).1]
              simp
          | cons d tl => simpa using hc
        rw [if_neg hc', ih hrest]
        omega

theorem regexRest?_stable {inClass : Bool} {tl r r' : Bytes}
    (h : regexRest? inClass (tl ++ r) = some tl.length)
    (hnext : ∀ b, r'.head? = some b → isIdentByte b → ∃ a, r.head? = some a ∧ isIdentByte a) :
    regexRest? inClass (tl ++ r') = some tl.length := by
  induction tl using shorter_induction generalizing inClass with
  | nil => exact absurd (regexRest?_pos h) (by simp)
  | cons c tl ih =>
      rw [List.cons_append, regexRest?_cons, List.length_cons] at h ⊢
      by_cases hc : c = Ascii.backslash
      · rw [if_pos hc] at h ⊢
        cases tl with
        | nil =>
            cases r with
            | nil => simp at h
            | cons b r =>
                obtain ⟨m, _, hm⟩ := Option.map_eq_some_iff.mp h
                simp at hm; omega
        | cons d tl =>
            obtain ⟨m, hm, hlen⟩ := Option.map_eq_some_iff.mp h
            obtain rfl : m = tl.length := by simp at hlen; omega
            have hrec := ih tl (by simp) hm
            simp [hrec]; omega
      · rw [if_neg hc] at h ⊢
        by_cases hn : c = Ascii.newline
        · rw [if_pos hn] at h
          cases h
        · rw [if_neg hn] at h ⊢
          by_cases hs : c = Ascii.slash ∧ ¬inClass
          · rw [if_pos hs] at h ⊢
            injection h with h
            have hflags : ((tl ++ r').takeWhile isIdentByte).length = tl.length :=
              takeWhile_stable (r := r) (by omega) hnext
            rw [hflags, Nat.add_comm]
          · rw [if_neg hs] at h ⊢
            obtain ⟨m, hm, hlen⟩ := Option.map_eq_some_iff.mp h
            obtain rfl : m = tl.length := by omega
            rw [ih tl (Nat.le_refl _) hm, Option.map_some, Nat.add_comm]

/-- A token of class `k` that begins with `c` and goes on with `tl` does not end merely because the
source does: comments and template literals are left out, and a string has its closing quote. -/
def EndsItself (k : Kind) (c : UInt8) (tl : Bytes) : Prop :=
  k ≠ .comment ∧ (∀ opens, k ≠ .template opens) ∧ (k = .string → stringClosed c tl)

/-- A string still reaches as far when the text behind it is exchanged. -/
private theorem string_stable {c : UInt8} {tl r r' : Bytes} (hc : c ≠ Ascii.newline)
    (h : stringRest c (tl ++ r) = tl.length) (hnext : Follows r r')
    (hend : r = [] → r' = [] ∨ stringClosed c tl) : stringRest c (tl ++ r') = tl.length := by
  apply stringRest_stable hc h
  by_cases hr : r = []
  · rcases hend hr with hr' | hclosed
    · exact .inr (.inr ⟨hr, hr'⟩)
    · exact .inl hclosed
  · by_cases hn : r.head? = some Ascii.newline
    · exact .inr (.inl ⟨hnext.newline hn, hr⟩)
    · exact .inl (stringClosed_of_rest hc h hr hn)

/-- A line comment still reaches as far when the text behind it is exchanged. -/
private theorem lineComment_stable {tl r r' : Bytes}
    (h : ((tl ++ r).takeWhile (· != Ascii.newline)).length = tl.length) (hnext : Follows r r')
    (hend : r = [] → r' = []) :
    ((tl ++ r').takeWhile (· != Ascii.newline)).length = tl.length := by
  apply takeWhile_stable h
  intro b hb hp
  cases r with
  | nil => simp [hend rfl] at hb
  | cons a r =>
      refine ⟨a, rfl, ?_⟩
      by_cases ha : a = Ascii.newline
      · have hn := hnext.newline (by simp [ha])
        rw [hb, Option.some.injEq] at hn
        simp [hn] at hp
      · simp [ha]

/-- A block comment still reaches as far, its star included. -/
private theorem blockComment_stable {tl r r' : Bytes}
    (h : 1 + blockCommentRest (tl ++ r).tail = tl.length) (hend : r = [] → r' = []) :
    1 + blockCommentRest (tl ++ r').tail = tl.length := by
  cases tl with
  | nil =>
      rw [List.length_nil] at h
      omega
  | cons d tl =>
      have hrest : blockCommentRest (tl ++ r) = tl.length := by
        rw [List.cons_append, List.tail_cons, List.length_cons] at h
        omega
      rw [List.cons_append, List.tail_cons, blockCommentRest_stable hrest hend, List.length_cons,
        Nat.add_comm]

/-- A number still reaches as far: it takes the bytes of identifiers and dots. -/
private theorem number_stable {tl r r' : Bytes}
    (h : ((tl ++ r).takeWhile fun b => isIdentByte b || b == Ascii.dot).length = tl.length)
    (hnext : Follows r r') :
    ((tl ++ r').takeWhile fun b => isIdentByte b || b == Ascii.dot).length = tl.length := by
  apply takeWhile_stable h
  intro b hb hp
  rcases Bool.or_eq_true_iff.mp hp with hi | hd
  · obtain ⟨a, ha, hai⟩ := hnext.ident b hb hi
    exact ⟨a, ha, by simp [hai]⟩
  · obtain rfl : b = Ascii.dot := by simpa using hd
    exact ⟨_, hnext.dot hb, by simp⟩

/-- A token that a slash begins takes more than that slash, unless it is punctuation. -/
theorem lexeme_slash_pos {ctx : Context} {rest : Bytes} {k : Kind} {n : Nat}
    (h : lexeme ctx Ascii.slash rest = (k, n)) (hk : k ≠ .punct) : 0 < n := by
  unfold lexeme at h
  rw [if_neg (by decide)] at h
  split at h
  · rename_i hs
    cases rest with
    | nil => simp at hs
    | cons a rest =>
        obtain rfl : a = Ascii.slash := by simpa using hs
        rw [List.takeWhile_cons, if_pos (by decide)] at h
        rw [← (Prod.mk.inj h).2]
        exact Nat.succ_pos _
  · split at h
    · rw [← (Prod.mk.inj h).2]
      omega
    · have hbrace : ¬(Ascii.slash = Ascii.backquote ∨
          (Ascii.slash = Ascii.closeBrace ∧ ctx.braces.head? = some .substitution)) := by
        rintro (hb | ⟨hb, _⟩) <;> exact absurd hb (by decide)
      rw [if_neg (by decide), if_neg hbrace, if_neg (by decide)] at h
      split at h
      · split at h
        · rename_i m hm
          rw [← (Prod.mk.inj h).2]
          exact regexRest?_pos hm
        · exact absurd (Prod.mk.inj h).1.symm hk
      · exact absurd (Prod.mk.inj h).1.symm hk

/-- A token keeps its class and its length when the text behind it and the context in front of it
are exchanged, except that a slash of its own has to be left out: whether it begins a regular
expression is decided by the whole line. -/
theorem lexeme_stable {ctx ctx' : Context} {c : UInt8} {tl r r' : Bytes} {k : Kind}
    (h : lexeme ctx c (tl ++ r) = (k, tl.length)) (hspace : k ≠ .space)
    (hslash : ¬(k = .punct ∧ c = Ascii.slash))
    (hregex : c = Ascii.slash → ctx.allowsRegex = ctx'.allowsRegex)
    (hbrace : c = Ascii.closeBrace →
      (ctx.braces.head? = some .substitution ↔ ctx'.braces.head? = some .substitution))
    (hnext : Follows r r') (hend : r = [] → r' = [] ∨ EndsItself k c tl) :
    lexeme ctx' c (tl ++ r') = (k, tl.length) := by
  have hhead : c = Ascii.slash → (tl ++ r').head? = (tl ++ r).head? := by
    intro hc
    cases tl with
    | cons d tl => rfl
    | nil =>
        rw [hc] at h
        exact absurd (lexeme_slash_pos h fun hk => hslash ⟨hk, hc⟩) (by simp)
  unfold lexeme at h ⊢
  by_cases hsp : isSpaceByte c = true
  · rw [if_pos hsp] at h
    exact absurd (Prod.mk.inj h).1.symm hspace
  rw [if_neg hsp] at h ⊢
  by_cases hline : c = Ascii.slash ∧ (tl ++ r).head? = some Ascii.slash
  · rw [if_pos hline] at h
    rw [if_pos ⟨hline.1, by rw [hhead hline.1]; exact hline.2⟩]
    obtain ⟨hk, hlen⟩ := Prod.mk.inj h
    subst hk
    rw [lineComment_stable hlen hnext fun hr => (hend hr).resolve_right fun he => he.1 rfl]
  have hline' : ¬(c = Ascii.slash ∧ (tl ++ r').head? = some Ascii.slash) := fun hl =>
    hline ⟨hl.1, by rw [← hhead hl.1]; exact hl.2⟩
  rw [if_neg hline] at h
  rw [if_neg hline']
  by_cases hblock : c = Ascii.slash ∧ (tl ++ r).head? = some Ascii.star
  · rw [if_pos hblock] at h
    rw [if_pos ⟨hblock.1, by rw [hhead hblock.1]; exact hblock.2⟩]
    obtain ⟨hk, hlen⟩ := Prod.mk.inj h
    subst hk
    rw [blockComment_stable hlen fun hr => (hend hr).resolve_right fun he => he.1 rfl]
  have hblock' : ¬(c = Ascii.slash ∧ (tl ++ r').head? = some Ascii.star) := fun hb =>
    hblock ⟨hb.1, by rw [← hhead hb.1]; exact hb.2⟩
  rw [if_neg hblock] at h
  rw [if_neg hblock']
  by_cases hquote : c = Ascii.quote ∨ c = Ascii.apostrophe
  · rw [if_pos hquote] at h ⊢
    obtain ⟨hk, hlen⟩ := Prod.mk.inj h
    subst hk
    have hc : c ≠ Ascii.newline := by rcases hquote with rfl | rfl <;> decide
    rw [string_stable hc hlen hnext fun hr => (hend hr).imp_right fun he => he.2.2 rfl]
  rw [if_neg hquote] at h ⊢
  have htemplate : (c = Ascii.backquote ∨
        (c = Ascii.closeBrace ∧ ctx.braces.head? = some .substitution)) ↔
      (c = Ascii.backquote ∨
        (c = Ascii.closeBrace ∧ ctx'.braces.head? = some .substitution)) :=
    or_congr_right (and_congr_right hbrace)
  by_cases ht : c = Ascii.backquote ∨
      (c = Ascii.closeBrace ∧ ctx.braces.head? = some .substitution)
  · rw [if_pos ht] at h
    rw [if_pos (htemplate.mp ht)]
    obtain ⟨hk, hlen⟩ := Prod.mk.inj h
    have hchunk : chunkRest (tl ++ r) = (tl.length, (chunkRest (tl ++ r)).2) := Prod.ext hlen rfl
    rw [chunkRest_stable hchunk fun hr =>
      (hend hr).resolve_right fun he => he.2.1 _ hk.symm, ← hk]
  rw [if_neg ht] at h
  rw [if_neg fun ht' => ht (htemplate.mpr ht')]
  by_cases hident : isIdentByte c = true
  · rw [if_pos hident] at h ⊢
    by_cases hdigit : Ascii.isDigit c = true
    · rw [if_pos hdigit] at h ⊢
      obtain ⟨hk, hlen⟩ := Prod.mk.inj h
      rw [number_stable hlen hnext, hk]
    · rw [if_neg hdigit] at h ⊢
      obtain ⟨hk, hlen⟩ := Prod.mk.inj h
      rw [takeWhile_stable hlen hnext.ident, hk]
  rw [if_neg hident] at h ⊢
  by_cases hslashc : c = Ascii.slash
  · by_cases hre : c = Ascii.slash ∧ ctx.allowsRegex = true
    · rw [if_pos hre] at h
      rw [if_pos ⟨hslashc, by rw [← hregex hslashc]; exact hre.2⟩]
      cases hrest : regexRest? false (tl ++ r) with
      | none =>
          rw [hrest] at h
          exact absurd ⟨(Prod.mk.inj h).1.symm, hslashc⟩ hslash
      | some n =>
          rw [hrest] at h
          obtain ⟨hk, hlen⟩ := Prod.mk.inj h
          subst hlen
          rw [regexRest?_stable hrest hnext.ident]
          exact congrArg (·, tl.length) hk
    · rw [if_neg hre] at h
      exact absurd ⟨(Prod.mk.inj h).1.symm, hslashc⟩ hslash
  rw [if_neg fun hre => hslashc hre.1] at h ⊢
  exact h

/-- `r'` may stand in the place of `r` behind a slash that is punctuation: it makes neither a
comment nor a regular expression out of the slash. -/
structure FollowsSlash (r r' : Bytes) : Prop where
  slash : r'.head? = some Ascii.slash → r.head? = some Ascii.slash
  star : r'.head? = some Ascii.star → r.head? = some Ascii.star
  regex : regexRest? false r = none → regexRest? false r' = none

/-- A slash that is punctuation stays so. -/
theorem lexeme_slash_stable {ctx ctx' : Context} {r r' : Bytes} {m : Nat}
    (h : lexeme ctx Ascii.slash r = (.punct, m)) (hregex : ctx.allowsRegex = ctx'.allowsRegex)
    (hnext : FollowsSlash r r') : lexeme ctx' Ascii.slash r' = (.punct, m) := by
  have hbrace : ∀ ctx : Context, ¬(Ascii.slash = Ascii.backquote ∨
      (Ascii.slash = Ascii.closeBrace ∧ ctx.braces.head? = some .substitution)) := by
    rintro ctx (hb | ⟨hb, _⟩) <;> exact absurd hb (by decide)
  unfold lexeme at h ⊢
  rw [if_neg (by decide)] at h ⊢
  split at h
  · cases (Prod.mk.inj h).1
  rename_i hline
  split at h
  · cases (Prod.mk.inj h).1
  rename_i hblock
  rw [if_neg (by decide), if_neg (hbrace ctx), if_neg (by decide)] at h
  rw [if_neg fun hl => hline ⟨rfl, hnext.slash hl.2⟩,
    if_neg fun hb => hblock ⟨rfl, hnext.star hb.2⟩, if_neg (by decide), if_neg (hbrace ctx'),
    if_neg (by decide)]
  by_cases hre : Ascii.slash = Ascii.slash ∧ ctx.allowsRegex = true
  · rw [if_pos hre] at h
    rw [if_pos ⟨rfl, by rw [← hregex]; exact hre.2⟩]
    cases hrest : regexRest? false r with
    | some n =>
        rw [hrest] at h
        cases (Prod.mk.inj h).1
    | none =>
        rw [hrest] at h
        rw [hnext.regex hrest]
        exact h
  · rw [if_neg hre] at h
    rw [if_neg (by rwa [← hregex])]
    exact h

/-! ## Tokens by class -/

theorem isSpaceByte_of_isIdentByte {c : UInt8} (h : isIdentByte c) : isSpaceByte c = false := by
  cases hs : isSpaceByte c with
  | false => rfl
  | true =>
      simp only [isSpaceByte, Bool.or_eq_true, beq_iff_eq] at hs
      rcases hs with ((((rfl | rfl) | rfl) | rfl) | rfl) | rfl <;> exact absurd h (by decide)

theorem lexeme_of_ident {ctx : Context} {c : UInt8} (hc : isIdentByte c)
    (hd : Ascii.isDigit c = false) (rest : Bytes) :
    lexeme ctx c rest = (.ident, (rest.takeWhile isIdentByte).length) := by
  have hne : ∀ b : UInt8, isIdentByte b = false → c ≠ b := by
    rintro b hb rfl
    rw [hb] at hc
    cases hc
  have hslash := hne Ascii.slash (by decide)
  unfold lexeme
  rw [if_neg (by simp [isSpaceByte_of_isIdentByte hc]), if_neg fun h => hslash h.1,
    if_neg fun h => hslash h.1,
    if_neg (not_or.mpr ⟨hne Ascii.quote (by decide), hne Ascii.apostrophe (by decide)⟩),
    if_neg (not_or.mpr ⟨hne Ascii.backquote (by decide),
      fun h => hne Ascii.closeBrace (by decide) h.1⟩),
    if_pos hc, if_neg (by simp [hd])]

theorem isIdentByte_of_lexeme {ctx : Context} {c : UInt8} {rest : Bytes} {m : Nat}
    (h : lexeme ctx c rest = (.ident, m)) : isIdentByte c := by
  unfold lexeme at h
  repeat' split at h
  all_goals first
    | assumption
    | cases (Prod.mk.inj h).1

theorem lexeme_of_quote {ctx : Context} {c : UInt8} (hc : c = Ascii.quote ∨ c = Ascii.apostrophe)
    (rest : Bytes) : lexeme ctx c rest = (.string, stringRest c rest) := by
  have hspace : isSpaceByte c = false := by rcases hc with rfl | rfl <;> decide
  have hslash : c ≠ Ascii.slash := by rcases hc with rfl | rfl <;> decide
  unfold lexeme
  rw [if_neg (by simp [hspace]), if_neg fun h => hslash h.1, if_neg fun h => hslash h.1, if_pos hc]

theorem quote_of_lexeme {ctx : Context} {c : UInt8} {rest : Bytes} {m : Nat}
    (h : lexeme ctx c rest = (.string, m)) : c = Ascii.quote ∨ c = Ascii.apostrophe := by
  unfold lexeme at h
  repeat' split at h
  all_goals first
    | assumption
    | cases (Prod.mk.inj h).1

/-- The bytes that are punctuation wherever they stand: a slash may begin more than that, and a
closing brace may go on with a template literal. -/
def isMark (c : UInt8) : Bool :=
  !isSpaceByte c && !isIdentByte c && c != Ascii.slash && c != Ascii.quote &&
    c != Ascii.apostrophe && c != Ascii.backquote && c != Ascii.closeBrace

theorem lexeme_of_mark {ctx : Context} {c : UInt8} (hc : isMark c) (rest : Bytes) :
    lexeme ctx c rest = (.punct, 0) := by
  simp only [isMark, Bool.and_eq_true, Bool.not_eq_true', bne_iff_ne] at hc
  obtain ⟨⟨⟨⟨⟨⟨hspace, hident⟩, hslash⟩, hquote⟩, hapos⟩, hback⟩, hbrace⟩ := hc
  simp [lexeme, hspace, hident, hslash, hquote, hapos, hback, hbrace]

theorem lexeme_of_closeBrace {ctx : Context} (h : ctx.braces.head? ≠ some .substitution)
    (rest : Bytes) : lexeme ctx Ascii.closeBrace rest = (.punct, 0) := by
  unfold lexeme
  rw [if_neg (by decide), if_neg fun hs => absurd hs.1 (by decide),
    if_neg fun hs => absurd hs.1 (by decide), if_neg (by decide),
    if_neg (not_or.mpr ⟨by decide, fun hb => h hb.2⟩), if_neg (by decide),
    if_neg fun hs => absurd hs.1 (by decide)]

theorem lexeme_of_substitution {ctx : Context} (h : ctx.braces.head? = some .substitution)
    (rest : Bytes) :
    lexeme ctx Ascii.closeBrace rest = (.template (chunkRest rest).2, (chunkRest rest).1) := by
  unfold lexeme
  rw [if_neg (by decide), if_neg fun hs => absurd hs.1 (by decide),
    if_neg fun hs => absurd hs.1 (by decide), if_neg (by decide), if_pos (.inr ⟨rfl, h⟩)]

/-- A slash begins a comment or a regular expression, or it is punctuation. -/
theorem lexeme_slash_kind {ctx : Context} {rest : Bytes} {k : Kind} {m : Nat}
    (h : lexeme ctx Ascii.slash rest = (k, m)) : k = .comment ∨ k = .regex ∨ k = .punct := by
  unfold lexeme at h
  rw [if_neg (by decide)] at h
  split at h
  · exact .inl (Prod.mk.inj h).1.symm
  split at h
  · exact .inl (Prod.mk.inj h).1.symm
  rw [if_neg (by decide),
    if_neg (not_or.mpr ⟨by decide, fun hb => absurd hb.1 (by decide)⟩), if_neg (by decide)] at h
  split at h
  · split at h
    · exact .inr (.inl (Prod.mk.inj h).1.symm)
    · exact .inr (.inr (Prod.mk.inj h).1.symm)
  · exact .inr (.inr (Prod.mk.inj h).1.symm)

/-- Punctuation is a single byte. -/
theorem eq_zero_of_lexeme_punct {ctx : Context} {c : UInt8} {rest : Bytes} {m : Nat}
    (h : lexeme ctx c rest = (.punct, m)) : m = 0 := by
  unfold lexeme at h
  repeat' split at h
  all_goals first
    | exact (Prod.mk.inj h).2.symm
    | cases (Prod.mk.inj h).1

/-- A closing brace is punctuation only outside the substitutions of template literals. -/
theorem head_ne_of_lexeme_punct {ctx : Context} {rest : Bytes} {m : Nat}
    (h : lexeme ctx Ascii.closeBrace rest = (.punct, m)) :
    ctx.braces.head? ≠ some .substitution := by
  intro hhead
  rw [lexeme_of_substitution hhead] at h
  cases (Prod.mk.inj h).1

/-- A closing brace goes on with a template literal only in a substitution. -/
theorem head_eq_of_lexeme_template {ctx : Context} {rest : Bytes} {m : Nat} {opens : Bool}
    (h : lexeme ctx Ascii.closeBrace rest = (.template opens, m)) :
    ctx.braces.head? = some .substitution := by
  by_cases hhead : ctx.braces.head? = some .substitution
  · exact hhead
  · rw [lexeme_of_closeBrace hhead] at h
    cases (Prod.mk.inj h).1

end ComponentCompiler.Script
