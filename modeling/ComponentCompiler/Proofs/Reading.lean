import ComponentCompiler.Proofs.Lexeme

/-!
# Reading a stretch of a script

`Reads ctx n x r ts` says that the scanner, standing at offset `n` in the context `ctx` before the
text `x`, with `r` behind it, reads the tokens `ts` out of `x` and stops where `r` begins. White
space is read byte by byte and leaves no token, because a run of white space may be cut anywhere.
Stretches compose (`Reads.trans`), can be cut in front of a token (`Reads.split`), and a whole
script is one (`reads_solid`).
-/

namespace ComponentCompiler.Script

/-- The tokens of a list other than white space. -/
def solid (ts : List Token) : List Token := ts.filter (·.kind != .space)

theorem significant_solid (ts : List Token) : significant (solid ts) = significant ts := by
  unfold significant solid
  rw [List.filter_filter]
  congr 1
  funext t
  cases hk : t.kind <;> simp [Token.isSignificant, hk]

/-- A token that is left when others are dropped splits the whole list. -/
theorem exists_split_of_filter {p : Token → Bool} {ts as bs : List Token} {t : Token}
    (h : ts.filter p = as ++ t :: bs) :
    ∃ as' bs', ts = as' ++ t :: bs' ∧ as'.filter p = as ∧ bs'.filter p = bs := by
  obtain ⟨as', more, rfl, has, hmore⟩ := List.filter_eq_append_iff.mp h
  obtain ⟨gap, bs', rfl, hgap, _, hbs⟩ := List.filter_eq_cons_iff.mp hmore
  refine ⟨as' ++ gap, bs', by simp, ?_, hbs⟩
  rw [List.filter_append, has, List.filter_eq_nil_iff.mpr (by simpa using hgap), List.append_nil]

namespace Context

/-- The context after a list of tokens. -/
def after (ctx : Context) (ts : List Token) : Context := ts.foldl advance ctx

@[simp] theorem after_nil (ctx : Context) : ctx.after [] = ctx := rfl

@[simp] theorem after_cons (ctx : Context) (t : Token) (ts : List Token) :
    ctx.after (t :: ts) = (ctx.advance t).after ts := rfl

@[simp] theorem after_append (ctx : Context) (ts us : List Token) :
    ctx.after (ts ++ us) = (ctx.after ts).after us := List.foldl_append ..

/-- White space and comments leave the context as it is. -/
theorem advance_of_not_significant {t : Token} (h : t.isSignificant = false) (ctx : Context) :
    ctx.advance t = ctx := by
  have hkind : t.kind = .space ∨ t.kind = .comment := by
    simp only [Token.isSignificant, Bool.and_eq_false_iff, bne_eq_false_iff_eq] at h
    exact h
  rcases hkind with hk | hk <;> simp [advance, bracesAfter, Token.isPunct, hk, h]

theorem after_significant (ctx : Context) (ts : List Token) :
    ctx.after (significant ts) = ctx.after ts := by
  induction ts generalizing ctx with
  | nil => rfl
  | cons t ts ih =>
      cases h : t.isSignificant with
      | true => simpa [significant, h] using ih (ctx.advance t)
      | false =>
          rw [after_cons, advance_of_not_significant h, ← ih]
          simp [significant, h]

end Context

/-! ## Lengths of tokens -/

theorem stringRest_le {q : UInt8} (hq : q ≠ Ascii.newline) (s : Bytes) :
    stringRest q s ≤ s.length := by
  induction s using shorter_induction with
  | nil => exact Nat.le_refl 0
  | cons c s ih =>
      rw [stringRest_cons hq, List.length_cons]
      have hdrop := ih (s.drop 1) (by simp)
      have hself := ih s (Nat.le_refl _)
      simp only [List.length_drop, List.length_take] at hdrop ⊢
      split
      · omega
      · split
        · omega
        · split <;> omega

theorem chunkRest_le (s : Bytes) : (chunkRest s).1 ≤ s.length := by
  induction s using shorter_induction with
  | nil => exact Nat.le_refl 0
  | cons c s ih =>
      rw [chunkRest_cons, List.length_cons]
      have hdrop := ih (s.drop 1) (by simp)
      have hself := ih s (Nat.le_refl _)
      simp only [List.length_drop, List.length_take] at hdrop ⊢
      split
      · omega
      · split
        · omega
        · split
          · rename_i hd
            cases s with
            | nil => simp at hd
            | cons d s => simp
          · omega

theorem blockCommentRest_le (s : Bytes) : blockCommentRest s ≤ s.length := by
  induction s with
  | nil => exact Nat.le_refl 0
  | cons c s ih =>
      rw [blockCommentRest_cons, List.length_cons]
      split
      · rename_i hc
        cases s with
        | nil => simp at hc
        | cons d s => simp
      · omega

theorem regexRest?_le {inClass : Bool} {s : Bytes} {n : Nat} (h : regexRest? inClass s = some n) :
    n ≤ s.length := by
  induction s using shorter_induction generalizing inClass n with
  | nil => simp [regexRest?] at h
  | cons c s ih =>
      rw [regexRest?_cons] at h
      split at h
      · cases s with
        | nil => simp at h
        | cons d s =>
            obtain ⟨m, hm, rfl⟩ := Option.map_eq_some_iff.mp h
            have := ih s (by simp) hm
            simp; omega
      · split at h
        · cases h
        · split at h
          · injection h with h
            have hflags := ( List.takeWhile_prefix isIdentByte (l := s)).length_le
            rw [List.length_cons]
            omega
          · obtain ⟨m, hm, rfl⟩ := Option.map_eq_some_iff.mp h
            have := ih s (Nat.le_refl _) hm
            rw [List.length_cons]
            omega

/-- A token ends within the source. -/
theorem lexeme_le (ctx : Context) (c : UInt8) (rest : Bytes) :
    (lexeme ctx c rest).2 ≤ rest.length := by
  have htake : ∀ p : UInt8 → Bool, (rest.takeWhile p).length ≤ rest.length := fun p =>
    ( List.takeWhile_prefix p).length_le
  unfold lexeme
  split
  · exact htake _
  split
  · exact htake _
  split
  · rename_i hb
    cases rest with
    | nil => simp at hb
    | cons d rest =>
        have := blockCommentRest_le rest
        simp; omega
  split
  · rename_i hq
    exact stringRest_le (by rcases hq with rfl | rfl <;> decide) rest
  split
  · exact chunkRest_le rest
  split
  · split
    · exact htake _
    · exact htake _
  split
  · split
    · rename_i n hn
      exact regexRest?_le hn
    · exact Nat.zero_le _
  · exact Nat.zero_le _

theorem lexeme_of_space {ctx : Context} {c : UInt8} (hc : isSpaceByte c) (rest : Bytes) :
    lexeme ctx c rest = (.space, (rest.takeWhile isSpaceByte).length) := by
  simp [lexeme, hc]

theorem isSpaceByte_of_lexeme {ctx : Context} {c : UInt8} {rest : Bytes}
    (h : (lexeme ctx c rest).1 = .space) : isSpaceByte c := by
  cases hc : isSpaceByte c with
  | true => rfl
  | false =>
      exfalso
      unfold lexeme at h
      rw [hc, if_neg (by decide)] at h
      repeat' split at h
      all_goals cases h

/-! ## The scanner, token by token -/

theorem scanFrom_cons {ctx : Context} {c : UInt8} {rest : Bytes} {k : Kind} {m : Nat}
    (h : lexeme ctx c rest = (k, m)) (n : Nat) :
    scanFrom ctx n (c :: rest) =
      ⟨k, n, c :: rest.take m⟩ ::
        scanFrom (ctx.advance ⟨k, n, c :: rest.take m⟩) (n + (m + 1)) (rest.drop m) := by
  have hm : (rest.take m).length = m := by
    have := lexeme_le ctx c rest
    rw [h] at this
    exact List.length_take_of_le this
  rw [scanFrom, h]
  simp only [Token.stop, List.length_cons, hm]

theorem solid_scanFrom_space {b : UInt8} (hb : isSpaceByte b) (ctx : Context) (n : Nat)
    (s : Bytes) :
    solid (scanFrom ctx n (b :: s)) = solid (scanFrom ctx (n + 1) s) := by
  -- whatever is left of the white space is one token, and it does not count
  have hrun : ∀ (c : UInt8) (m : Nat) (u : Bytes), isSpaceByte c →
      solid (scanFrom ctx m (c :: u)) =
        solid (scanFrom ctx (m + ((u.takeWhile isSpaceByte).length + 1))
          (u.drop (u.takeWhile isSpaceByte).length)) := by
    intro c m u hc
    rw [scanFrom_cons (lexeme_of_space hc u), Context.advance_of_not_significant rfl]
    rfl
  rw [hrun b n s hb]
  cases s with
  | nil => rfl
  | cons c s =>
      cases hc : isSpaceByte c with
      | true =>
          rw [hrun c (n + 1) s hc]
          simp only [List.takeWhile_cons, hc, if_true, List.length_cons, List.drop_succ_cons]
          rw [show n + ((s.takeWhile isSpaceByte).length + 1 + 1) =
            n + 1 + ((s.takeWhile isSpaceByte).length + 1) by omega]
      | false => simp [hc]

/-! ## Reading a stretch -/

/-- The tokens of the stretch `x` of a source, which starts at offset `n` in the context `ctx` and
is followed by `r`. White space is left out. -/
inductive Reads : Context → Nat → Bytes → Bytes → List Token → Prop
  | nil (ctx : Context) (n : Nat) (r : Bytes) : Reads ctx n [] r []
  | space {ctx : Context} {n : Nat} {b : UInt8} {x r : Bytes} {ts : List Token}
      (hb : isSpaceByte b) (h : Reads ctx (n + 1) x r ts) : Reads ctx n (b :: x) r ts
  | token {ctx : Context} {n : Nat} {b : UInt8} {tl x r : Bytes} {k : Kind} {ts : List Token}
      (hk : k ≠ .space) (hlex : lexeme ctx b (tl ++ (x ++ r)) = (k, tl.length))
      (h : Reads (ctx.advance ⟨k, n, b :: tl⟩) (n + (tl.length + 1)) x r ts) :
      Reads ctx n (b :: (tl ++ x)) r (⟨k, n, b :: tl⟩ :: ts)

namespace Reads

variable {ctx : Context} {n : Nat} {x y r : Bytes} {t : Token} {ts us : List Token}

/-- What is read is what the scanner finds. -/
theorem scan_eq (h : Reads ctx n x r ts) :
    solid (scanFrom ctx n (x ++ r)) =
      ts ++ solid (scanFrom (ctx.after ts) (n + x.length) r) := by
  induction h with
  | nil ctx n r => rfl
  | @space ctx n b x r ts hb h ih =>
      rw [List.cons_append, solid_scanFrom_space hb, ih, List.length_cons,
        show n + 1 + x.length = n + (x.length + 1) by omega]
  | @token ctx n b tl x r k ts hk hlex h ih =>
      have hsolid : ∀ us : List Token,
          solid (⟨k, n, b :: tl⟩ :: us) = ⟨k, n, b :: tl⟩ :: solid us := by
        intro us
        simp [solid, hk]
      rw [List.cons_append, List.append_assoc, scanFrom_cons hlex, List.take_left, List.drop_left,
        hsolid, ih]
      simp only [List.cons_append, Context.after_cons, List.length_cons, List.length_append]
      rw [show n + (tl.length + 1) + x.length = n + (tl.length + x.length + 1) by omega]

theorem trans (h : Reads ctx n x (y ++ r) ts) (h' : Reads (ctx.after ts) (n + x.length) y r us) :
    Reads ctx n (x ++ y) r (ts ++ us) := by
  generalize hs : y ++ r = s at h
  induction h with
  | nil ctx n s => simpa using h'
  | @space ctx n b x s ts hb h ih =>
      refine .space hb (ih ?_ hs)
      rwa [List.length_cons, show n + (x.length + 1) = n + 1 + x.length by omega] at h'
  | @token ctx n b tl x s k ts hk hlex h ih =>
      subst hs
      rw [List.cons_append, List.append_assoc, List.cons_append]
      refine .token hk (by rwa [List.append_assoc]) (ih ?_ rfl)
      rwa [List.length_cons, List.length_append,
        show n + (tl.length + x.length + 1) = n + (tl.length + 1) + x.length by omega] at h'

/-- A single token. -/
theorem single {b : UInt8} {tl : Bytes} {k : Kind} (hk : k ≠ .space)
    (hlex : lexeme ctx b (tl ++ r) = (k, tl.length)) :
    Reads ctx n (b :: tl) r [⟨k, n, b :: tl⟩] := by
  have h : Reads ctx n (b :: (tl ++ [])) r [⟨k, n, b :: tl⟩] :=
    .token hk (by simpa using hlex) (.nil _ _ _)
  rwa [List.append_nil] at h

/-- A single byte of punctuation. -/
theorem mark {b : UInt8} (hb : isMark b) : Reads ctx n [b] r [⟨.punct, n, [b]⟩] :=
  .single (by decide) (lexeme_of_mark hb _)

/-- White space reads as nothing. -/
theorem spaces (hx : ∀ b ∈ x, isSpaceByte b) (h : Reads ctx (n + x.length) y r ts) :
    Reads ctx n (x ++ y) r ts := by
  induction x generalizing n with
  | nil => exact h
  | cons b x ih =>
      refine .space (hx b List.mem_cons_self) (ih (fun c hc => hx c (List.mem_cons_of_mem b hc)) ?_)
      rwa [List.length_cons, show n + (x.length + 1) = n + 1 + x.length by omega] at h

/-- Where the tokens of a stretch stand. -/
theorem covers (h : Reads ctx n x r ts) (ht : t ∈ ts) :
    t.text ≠ [] ∧ ∃ u v, x = u ++ (t.text ++ v) ∧ t.start = n + u.length := by
  induction h with
  | nil => cases ht
  | @space ctx n b x r ts hb h ih =>
      obtain ⟨hne, u, v, rfl, hu⟩ := ih ht
      exact ⟨hne, b :: u, v, rfl, by rw [hu, List.length_cons]; omega⟩
  | @token ctx n b tl x r k ts hk hlex h ih =>
      rcases List.mem_cons.mp ht with rfl | ht
      · exact ⟨List.cons_ne_nil b tl, [], x, rfl, rfl⟩
      · obtain ⟨hne, u, v, rfl, hu⟩ := ih ht
        refine ⟨hne, b :: (tl ++ u), v, by simp, ?_⟩
        rw [hu, List.length_cons, List.length_append]
        omega

theorem start_lt (h : Reads ctx n x r ts) (ht : t ∈ ts) :
    n ≤ t.start ∧ t.start < n + x.length := by
  obtain ⟨hne, u, v, rfl, hu⟩ := h.covers ht
  have hpos := List.length_pos_iff.mpr hne
  simp only [List.length_append]
  omega

theorem pairwise_start (h : Reads ctx n x r ts) : ts.Pairwise fun a b => a.start < b.start := by
  induction h with
  | nil => exact .nil
  | space hb h ih => exact ih
  | token hk hlex h ih =>
      refine .cons ?_ ih
      intro t ht
      have := (h.start_lt ht).1
      simp only
      omega

/-- Tokens that begin at one offset are one token. -/
theorem eq_of_start_eq {a b : Token} (h : Reads ctx n x r ts) (ha : a ∈ ts) (hb : b ∈ ts)
    (hab : a.start = b.start) : a = b := by
  have hpair := h.pairwise_start
  refine List.Pairwise.forall_of_forall_of_flip (R := fun a b : Token => a.start = b.start → a = b)
    (fun _ _ _ => rfl) (hpair.imp ?_) (hpair.imp ?_) ha hb hab
  · intro a b hlt heq
    omega
  · intro a b hlt heq
    omega

/-- A stretch that is one token. -/
theorem lexeme_of_single {b : UInt8} {tl : Bytes} {k : Kind} {m : Nat}
    (h : Reads ctx n (b :: tl) r [⟨k, m, b :: tl⟩]) : lexeme ctx b (tl ++ r) = (k, tl.length) := by
  generalize hx : b :: tl = y at h
  generalize hts : [Token.mk k m y] = ts at h
  cases h with
  | nil => cases hx
  | @space _ _ c x _ _ hc h =>
      -- the token would be longer than what is left
      obtain ⟨_, u, v, hcov, _⟩ := h.covers (t := ⟨k, m, c :: x⟩) (hts ▸ List.mem_cons_self)
      have hlen := congrArg List.length hcov
      simp only [List.length_append, List.length_cons] at hlen
      omega
  | @token _ _ c tl' x _ k' ts hk hlex h =>
      obtain ⟨htoken, _⟩ := List.cons.inj hts
      obtain ⟨rfl, _, htext⟩ := Token.mk.inj htoken
      obtain ⟨rfl, rfl⟩ := List.cons.inj hx
      have hnil : x = [] := by simpa using htext
      subst hnil
      simpa using hlex

/-- An identifier begins with a byte of identifiers. -/
theorem isIdentByte_of_start {b : UInt8} (h : Reads ctx n x r ts) (ht : t ∈ ts)
    (hkind : t.kind = .ident) (hb : x[t.start - n]? = some b) : isIdentByte b := by
  induction h with
  | nil => cases ht
  | @space ctx n c x r ts hc h ih =>
      have hlo := (h.start_lt ht).1
      rw [show t.start - n = t.start - (n + 1) + 1 by omega, List.getElem?_cons_succ] at hb
      exact ih ht hb
  | @token ctx n c tl x r k ts hk hlex h ih =>
      rcases List.mem_cons.mp ht with rfl | ht
      · obtain rfl : k = .ident := hkind
        obtain rfl : c = b := by simpa using hb
        exact isIdentByte_of_lexeme hlex
      · have hlo := (h.start_lt ht).1
        rw [show t.start - n = tl.length + (t.start - (n + (tl.length + 1))) + 1 by omega,
          List.getElem?_cons_succ, List.getElem?_append_right (by omega),
          Nat.add_sub_cancel_left] at hb
        exact ih ht hb

/-- A stretch is cut in front of a token and behind it; white space in front of the token goes to
the first part. -/
theorem split (h : Reads ctx n x r (ts ++ t :: us)) :
    ∃ y z, x = y ++ (t.text ++ z) ∧ t.start = n + y.length ∧
      Reads ctx n y (t.text ++ (z ++ r)) ts ∧
      Reads (ctx.after ts) t.start t.text (z ++ r) [t] ∧
      Reads ((ctx.after ts).advance t) (t.start + t.text.length) z r us := by
  generalize hl : ts ++ t :: us = l at h
  induction h generalizing ts with
  | nil => simp at hl
  | @space ctx n b x r l hb h ih =>
      obtain ⟨y, z, rfl, hstart, hy, ht, hz⟩ := ih hl
      exact ⟨b :: y, z, rfl, by rw [hstart, List.length_cons]; omega, .space hb hy, ht, hz⟩
  | @token ctx n b tl x r k l hk hlex h ih =>
      cases ts with
      | nil =>
          obtain ⟨rfl, rfl⟩ := List.cons.inj hl
          exact ⟨[], x, rfl, rfl, .nil _ _ _, .single hk hlex, h⟩
      | cons t' ts =>
          obtain ⟨rfl, hrest⟩ := List.cons.inj hl
          obtain ⟨y, z, rfl, hstart, hy, ht, hz⟩ := ih hrest
          refine ⟨b :: (tl ++ y), z, by simp, ?_, ?_, ht, hz⟩
          · rw [hstart, List.length_cons, List.length_append]
            omega
          · exact .token hk (by simpa using hlex) hy

end Reads

/-- A whole text is a stretch with nothing behind it. -/
theorem reads_solid (ctx : Context) (n : Nat) (s : Bytes) :
    Reads ctx n s [] (solid (scanFrom ctx n s)) := by
  induction s using shorter_induction generalizing ctx n with
  | nil =>
      rw [scanFrom]
      exact .nil _ _ _
  | cons c rest ih =>
      by_cases hc : isSpaceByte c = true
      · rw [solid_scanFrom_space hc]
        exact .space hc (ih rest (Nat.le_refl _) ctx (n + 1))
      · obtain ⟨k, m, hlex⟩ : ∃ k m, lexeme ctx c rest = (k, m) := ⟨_, _, rfl⟩
        have hk : k ≠ .space := by
          rintro rfl
          exact hc (isSpaceByte_of_lexeme (by rw [hlex]))
        have hm : (rest.take m).length = m := by
          have := lexeme_le ctx c rest
          rw [hlex] at this
          exact List.length_take_of_le this
        have hrec := ih (rest.drop m) (by simp) (ctx.advance ⟨k, n, c :: rest.take m⟩) (n + (m + 1))
        have hsolid : solid (scanFrom ctx n (c :: rest)) =
            ⟨k, n, c :: rest.take m⟩ ::
              solid (scanFrom (ctx.advance ⟨k, n, c :: rest.take m⟩) (n + (m + 1))
                (rest.drop m)) := by
          rw [scanFrom_cons hlex]
          simp [solid, hk]
        rw [hsolid]
        conv => arg 3; rw [← List.take_append_drop m rest]
        refine .token hk ?_ (by rwa [hm])
        rw [List.append_nil, List.take_append_drop, hm, hlex]

/-- A text that is read with nothing behind it has just the tokens that are read. -/
theorem Reads.solid_eq {ctx : Context} {n : Nat} {s : Bytes} {ts : List Token}
    (h : Reads ctx n s [] ts) : solid (scanFrom ctx n s) = ts := by
  have := h.scan_eq
  rwa [List.append_nil, show scanFrom (ctx.after ts) (n + s.length) [] = [] by rw [scanFrom],
    show solid [] = [] from rfl, List.append_nil] at this

end ComponentCompiler.Script
