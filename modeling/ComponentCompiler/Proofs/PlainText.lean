import ComponentCompiler.Proofs.Simulation

/-!
# Texts that mean the same everywhere

A plain text has only tokens whose class does not depend on their context, and its brackets are
nested. Such a text is inert: in any context the scanner reads it to its end, finds the braces and
parentheses open afterwards that were open before, and never closes one of them on the way.
-/

namespace ComponentCompiler.Script

/-- A token of a class that does not depend on the context: white space, an identifier, a number, a
string that is closed, or punctuation other than a slash. -/
def Token.isPlain (t : Token) : Bool :=
  match t.kind, t.text with
  | .space, _ => true
  | .ident, _ => true
  | .number, _ => true
  | .string, q :: rest => stringClosed q rest
  | .punct, text => text != [Ascii.slash]
  | _, _ => false

/-- The brackets, each with the one that closes it. -/
def bracketPairs : List (UInt8 × UInt8) :=
  [(Ascii.openParen, Ascii.closeParen), (Ascii.openBracket, Ascii.closeBracket),
    (Ascii.openBrace, Ascii.closeBrace)]

/-- The closing brackets that are due after a token, innermost first, given those due before it.
There are none when the token closes a bracket out of turn. -/
def bracketsAfter? (due : List UInt8) (t : Token) : Option (List UInt8) :=
  match bracketPairs.find? (t.isPunct ·.1) with
  | some p => some (p.2 :: due)
  | none =>
    if bracketPairs.any (t.isPunct ·.2) then
      match due with
      | [] => none
      | b :: due => if t.isPunct b then some due else none
    else some due

/-- The closing brackets that are due after a list of tokens. -/
def brackets? : List UInt8 → List Token → Option (List UInt8)
  | due, [] => some due
  | due, t :: ts => (bracketsAfter? due t).bind (brackets? · ts)

/-- A text of plain tokens with properly nested brackets. -/
def isPlainText (x : Bytes) : Bool :=
  (scan x).all Token.isPlain && brackets? [] (scan x) == some []

theorem brackets?_solid (due : List UInt8) (ts : List Token) :
    brackets? due (solid ts) = brackets? due ts := by
  induction ts generalizing due with
  | nil => rfl
  | cons t ts ih =>
      by_cases hk : t.kind = .space
      · have hstep : bracketsAfter? due t = some due := by
          simp [bracketsAfter?, bracketPairs, Token.isPunct, hk]
        rw [brackets?, hstep, Option.bind_some, ← ih]
        simp [solid, hk]
      · simp [solid, hk, brackets?, ← ih]

/-! ## Plain tokens in any context -/

/-- What `due` brackets have put on the stacks of a context, above `braces` and `parens`. -/
structure Opened (due : List UInt8) (braces : List Brace) (parens : List Bool) (ctx : Context) :
    Prop where
  braces_eq : ctx.braces = List.replicate (due.count Ascii.closeBrace) .code ++ braces
  parens_eq : ∃ up, ctx.parens = up ++ parens ∧ up.length = due.count Ascii.closeParen

section

variable {due due' : List UInt8} {braces : List Brace} {parens : List Bool} {ctx ctx' : Context}
  {t : Token}

theorem Opened.suffix (h : Opened due braces parens ctx) : braces <:+ ctx.braces :=
  h.braces_eq ▸ List.suffix_append _ _

/-- A token opens a bracket, closes the one that is due, or is no bracket. -/
theorem bracketsAfter?_eq_some (h : bracketsAfter? due t = some due') :
    (∃ p ∈ bracketPairs, t.isPunct p.1 ∧ due' = p.2 :: due) ∨
    (∃ p ∈ bracketPairs, t.isPunct p.2 ∧ due = p.2 :: due') ∨
    ((∀ p ∈ bracketPairs, ¬t.isPunct p.1 ∧ ¬t.isPunct p.2) ∧ due' = due) := by
  unfold bracketsAfter? at h
  split at h
  · rename_i p hp
    have hopen : t.isPunct p.1 = true := by simpa using List.find?_some hp
    exact .inl ⟨p, List.mem_of_find?_eq_some hp, hopen, (Option.some.inj h).symm⟩
  · rename_i hopen
    split at h
    · rename_i hany
      obtain ⟨p, hp, hclose⟩ := List.any_eq_true.mp hany
      cases due with
      | nil => cases h
      | cons b due =>
          simp only at h
          split at h
          · rename_i hb
            obtain rfl : due = due' := Option.some.inj h
            have heq : [b] = [p.2] :=
              (Token.isPunct_iff.mp hb).2.symm.trans (Token.isPunct_iff.mp hclose).2
            exact .inr (.inl ⟨p, hp, hclose, by rw [List.singleton_inj.mp heq]⟩)
          · cases h
    · rename_i hany
      refine .inr (.inr ⟨fun p hp => ⟨?_, fun hclose => ?_⟩, (Option.some.inj h).symm⟩)
      · simpa using List.find?_eq_none.mp hopen p hp
      · exact hany (List.any_eq_true.mpr ⟨p, hp, hclose⟩)

/-- Brackets of different pairs have nothing in common. -/
theorem bracketPairs_disjoint : ∀ p ∈ bracketPairs, ∀ q ∈ bracketPairs, p ≠ q →
    p.1 ≠ q.1 ∧ p.1 ≠ q.2 ∧ p.2 ≠ q.1 ∧ p.2 ≠ q.2 := by
  intro p hp q hq
  simp only [bracketPairs, List.mem_cons, List.not_mem_nil, or_false] at hp hq
  rcases hp with rfl | rfl | rfl <;> rcases hq with rfl | rfl | rfl <;> decide

theorem Token.not_isPunct {a b : UInt8} (h : t.isPunct a) (hab : a ≠ b) : ¬t.isPunct b := by
  intro hb
  have heq := (Token.isPunct_iff.mp h).2.symm.trans (Token.isPunct_iff.mp hb).2
  exact hab (List.singleton_inj.mp heq)

/-- How a token changes the number of brackets of one pair that are open. -/
theorem count_bracketsAfter? {q : UInt8 × UInt8} (hq : q ∈ bracketPairs)
    (h : bracketsAfter? due t = some due') :
    (t.isPunct q.1 ∧ due'.count q.2 = due.count q.2 + 1) ∨
    (t.isPunct q.2 ∧ due.count q.2 = due'.count q.2 + 1) ∨
    (¬t.isPunct q.1 ∧ ¬t.isPunct q.2 ∧ due'.count q.2 = due.count q.2) := by
  rcases bracketsAfter?_eq_some h with ⟨p, hp, ht, rfl⟩ | ⟨p, hp, ht, rfl⟩ | ⟨hnone, rfl⟩
  · by_cases hpq : p = q
    · subst hpq
      exact .inl ⟨ht, List.count_cons_self⟩
    · obtain ⟨h11, h12, _, h22⟩ := bracketPairs_disjoint p hp q hq hpq
      exact .inr (.inr ⟨Token.not_isPunct ht h11, Token.not_isPunct ht h12,
        List.count_cons_of_ne h22⟩)
  · by_cases hpq : p = q
    · subst hpq
      exact .inr (.inl ⟨ht, List.count_cons_self⟩)
    · obtain ⟨_, _, h21, h22⟩ := bracketPairs_disjoint p hp q hq hpq
      exact .inr (.inr ⟨Token.not_isPunct ht h21, Token.not_isPunct ht h22,
        (List.count_cons_of_ne h22).symm⟩)
  · exact .inr (.inr ⟨(hnone q hq).1, (hnone q hq).2, rfl⟩)

theorem Opened.step (h : Opened due braces parens ctx) (hdue : bracketsAfter? due t = some due')
    (hkind : ∀ opens, t.kind ≠ .template opens) : Opened due' braces parens (ctx.advance t) where
  braces_eq := by
    have hbraces := h.braces_eq
    rcases count_bracketsAfter? (q := (Ascii.openBrace, Ascii.closeBrace)) (by decide) hdue with
      ⟨ht, hcount⟩ | ⟨ht, hcount⟩ | ⟨hopen, hclose, hcount⟩
    · simp only [Context.advance, Context.bracesAfter_open ht, hbraces, hcount, List.replicate_succ,
        List.cons_append]
    · rw [hcount, List.replicate_succ, List.cons_append] at hbraces
      simp only [Context.advance, Context.bracesAfter_close ht, hbraces, List.tail_cons]
    · simp only [Context.advance, Context.bracesAfter_other hopen hclose hkind, hbraces, hcount]
  parens_eq := by
    obtain ⟨up, hparens, hup⟩ := h.parens_eq
    rcases count_bracketsAfter? (q := (Ascii.openParen, Ascii.closeParen)) (by decide) hdue with
      ⟨ht, hcount⟩ | ⟨ht, hcount⟩ | ⟨hopen, hclose, hcount⟩
    · exact ⟨ctx.atControl :: up, by simp [Context.advance, ht, hparens], by simp [hup, hcount]⟩
    · have hopen := Token.not_isPunct ht (show Ascii.closeParen ≠ Ascii.openParen by decide)
      cases up with
      | nil =>
          rw [hcount, List.length_nil] at hup
          omega
      | cons flag up =>
          refine ⟨up, by simp [Context.advance, ht, hopen, hparens], ?_⟩
          rw [hcount, List.length_cons] at hup
          exact Nat.add_right_cancel hup
    · exact ⟨up, by simpa [Context.advance, hopen, hclose] using hparens, by rw [hup, hcount]⟩

end

theorem Token.endsItself_of_isPlain {k : Kind} {n : Nat} {b : UInt8} {tl : Bytes}
    (h : (⟨k, n, b :: tl⟩ : Token).isPlain) : EndsItself k b tl := by
  unfold Token.isPlain at h
  cases k with
  | comment => cases h
  | template opens => cases h
  | regex => cases h
  | string => exact ⟨by simp, by simp, fun _ => h⟩
  | _ => exact ⟨by simp, by simp, by simp⟩

/-- A slash begins no plain token. -/
theorem ne_slash_of_isPlain {ctx : Context} {k : Kind} {n : Nat} {b : UInt8} {tl s : Bytes}
    (h : (⟨k, n, b :: tl⟩ : Token).isPlain) (hlex : lexeme ctx b s = (k, tl.length)) :
    b ≠ Ascii.slash := by
  rintro rfl
  rcases lexeme_slash_kind hlex with rfl | rfl | rfl
  · cases h
  · cases h
  · obtain rfl : tl = [] := List.length_eq_zero_iff.mp (eq_zero_of_lexeme_punct hlex)
    simp [Token.isPlain] at h

/-- A plain token is read in any context. -/
theorem lexeme_plain {ctx ctx' : Context} {k : Kind} {n : Nat} {b : UInt8} {tl s s' : Bytes}
    (hlex : lexeme ctx b (tl ++ s) = (k, tl.length)) (hk : k ≠ .space)
    (hplain : (⟨k, n, b :: tl⟩ : Token).isPlain) (hnext : Follows s s')
    (hbrace : k = .punct → b = Ascii.closeBrace → ctx'.braces.head? ≠ some .substitution) :
    lexeme ctx' b (tl ++ s') = (k, tl.length) := by
  have hslash := ne_slash_of_isPlain hplain hlex
  have hends := Token.endsItself_of_isPlain hplain
  refine lexeme_stable hlex hk (fun h => hslash h.2) (fun h => absurd h hslash) ?_ hnext
    fun _ => .inr hends
  rintro rfl
  by_cases hhead : ctx.braces.head? = some .substitution
  · rw [lexeme_of_substitution hhead] at hlex
    exact absurd (Prod.mk.inj hlex).1.symm (hends.2.1 _)
  · rw [lexeme_of_closeBrace hhead] at hlex
    have hhead' := hbrace (Prod.mk.inj hlex).1.symm rfl
    exact ⟨fun h => absurd h hhead, fun h => absurd h hhead'⟩

/-! ## Inert texts -/

/-- The text `x`, with `r` behind it, is read to its end in any context and leaves the context's
braces and parentheses open all the time. -/
def Inert (x r : Bytes) : Prop :=
  ∀ ctx n, ∃ ts, Reads ctx n x r ts ∧ (ctx.after ts).braces = ctx.braces ∧
    (ctx.after ts).parens = ctx.parens ∧ StaysOpen ctx.braces ctx ts

/-- Plain tokens that are read once are read in any context. -/
theorem Reads.plain {ctx : Context} {n : Nat} {x r r' : Bytes} {ts : List Token}
    (h : Reads ctx n x r ts) (hplain : ∀ t ∈ ts, t.isPlain) (hnext : Follows r r')
    {due : List UInt8} (hdue : brackets? due ts = some []) {braces : List Brace}
    {parens : List Bool} {ctx' : Context} (hopen : Opened due braces parens ctx') (n' : Nat) :
    ∃ ts', Reads ctx' n' x r' ts' ∧ Opened [] braces parens (ctx'.after ts') ∧
      StaysOpen braces ctx' ts' := by
  induction h generalizing due ctx' n' with
  | nil ctx n r =>
      obtain rfl : due = [] := Option.some.inj hdue
      exact ⟨[], .nil _ _ _, hopen, .nil hopen.suffix⟩
  | @space ctx n b x r ts hb h ih =>
      obtain ⟨ts', hreads, hafter, hstays⟩ := ih hplain hnext hdue hopen (n' + 1)
      exact ⟨ts', .space hb hreads, hafter, hstays⟩
  | @token ctx n b tl x r k ts hk hlex h ih =>
      obtain ⟨due', hstep, hrest⟩ := Option.bind_eq_some_iff.mp hdue
      have hthis := hplain _ List.mem_cons_self
      have hnext' : Follows (x ++ r) (x ++ r') := by
        cases x with
        | nil => exact hnext
        | cons c x => exact .of_head rfl
      have hlex' : lexeme ctx' b (tl ++ (x ++ r')) = (k, tl.length) := by
        refine lexeme_plain hlex hk hthis hnext' ?_
        -- the brace that is closed is one that the text has opened
        rintro rfl rfl
        obtain rfl : tl = [] := List.length_eq_zero_iff.mp (eq_zero_of_lexeme_punct hlex)
        have hcount :=
          count_bracketsAfter? (q := (Ascii.openBrace, Ascii.closeBrace)) (by decide) hstep
        rcases hcount with ⟨ht, _⟩ | ⟨_, hcount⟩ | ⟨_, hclose, _⟩
        · cases ht
        · rw [hopen.braces_eq, hcount]
          simp [List.replicate_succ]
        · exact absurd rfl hclose
      have hafter : Opened due' braces parens (ctx'.advance ⟨k, n', b :: tl⟩) :=
        hopen.step hstep (Token.endsItself_of_isPlain hthis).2.1
      obtain ⟨ts', hreads, hend, hstays⟩ :=
        ih (fun t ht => hplain t (List.mem_cons_of_mem _ ht)) hnext
        hrest hafter (n' + (tl.length + 1))
      exact ⟨⟨k, n', b :: tl⟩ :: ts', .token hk hlex' hreads, hend, .cons hopen.suffix hstays⟩

/-- A byte that is neither of an identifier nor a dot continues nothing. -/
theorem follows_cons {r : Bytes} {b : UInt8} (hident : isIdentByte b = false) (hdot : b ≠ Ascii.dot)
    (hnewline : r.head? ≠ some Ascii.newline) (r' : Bytes) : Follows r (b :: r') where
  ident c hc hi := by
    obtain rfl : b = c := by simpa using hc
    rw [hident] at hi
    cases hi
  dot hd := absurd (by simpa using hd) hdot
  newline hn := absurd hn hnewline

namespace Inert

variable {x y r : Bytes}

/-- A plain text is inert when what follows does not continue its last token. -/
theorem of_isPlainText (h : isPlainText x) (hnext : Follows [] r) : Inert x r := by
  intro ctx n
  simp only [isPlainText, Bool.and_eq_true, List.all_eq_true, beq_iff_eq] at h
  have hreads : Reads {} 0 x [] (solid (scan x)) := reads_solid {} 0 x
  have hopen : Opened [] ctx.braces ctx.parens ctx := ⟨rfl, [], rfl, rfl⟩
  obtain ⟨ts, hts, hafter, hstays⟩ := hreads.plain
    (fun t ht => h.1 t (List.mem_filter.mp ht).1) hnext
      ((brackets?_solid [] (scan x)).trans h.2) hopen n
  obtain ⟨up, hparens, hup⟩ := hafter.parens_eq
  obtain rfl : up = [] := List.length_eq_zero_iff.mp hup
  exact ⟨ts, hts, hafter.braces_eq, hparens, hstays⟩

theorem append (hx : Inert x (y ++ r)) (hy : Inert y r) : Inert (x ++ y) r := by
  intro ctx n
  obtain ⟨ts, hts, hb, hp, hstays⟩ := hx ctx n
  obtain ⟨us, hus, hb', hp', hstays'⟩ := hy (ctx.after ts) (n + x.length)
  rw [hb] at hb' hstays'
  rw [hp] at hp'
  refine ⟨ts ++ us, hts.trans hus, ?_, ?_, hstays.append hstays'⟩
  · rw [Context.after_append, hb']
  · rw [Context.after_append, hp']

theorem of_spaces (h : ∀ b ∈ x, isSpaceByte b) : Inert x r := by
  intro ctx n
  have hreads : Reads ctx n (x ++ []) r [] := .spaces h (.nil _ _ _)
  rw [List.append_nil] at hreads
  exact ⟨[], hreads, rfl, rfl, .nil (List.suffix_refl _)⟩

/-- A plain text is inert in front of a byte that cannot continue its last token. -/
theorem of_isPlainText_cons {b : UInt8} (h : isPlainText x) (hident : isIdentByte b = false)
    (hdot : b ≠ Ascii.dot) : Inert x (b :: r) :=
  of_isPlainText h (follows_cons hident hdot (by simp) r)

/-- Parentheses around an inert text. -/
theorem parens (h : Inert x (Ascii.closeParen :: r)) :
    Inert (Ascii.openParen :: (x ++ [Ascii.closeParen])) r := by
  intro ctx n
  obtain ⟨ts, hts, hb, hp, hstays⟩ := h (ctx.advance ⟨.punct, n, [Ascii.openParen]⟩) (n + 1)
  have hopen : Reads ctx n [Ascii.openParen] (x ++ [Ascii.closeParen] ++ r)
      [⟨.punct, n, [Ascii.openParen]⟩] := .mark (by decide)
  have hclose : ∀ ctx m, Reads ctx m [Ascii.closeParen] r [⟨.punct, m, [Ascii.closeParen]⟩] :=
    fun ctx m => .mark (by decide)
  have hbraces : (((ctx.advance ⟨.punct, n, [Ascii.openParen]⟩).after ts).advance
      ⟨.punct, n + 1 + x.length, [Ascii.closeParen]⟩).braces = ctx.braces := hb
  refine ⟨⟨.punct, n, [Ascii.openParen]⟩ ::
    (ts ++ [⟨.punct, n + 1 + x.length, [Ascii.closeParen]⟩]),
    hopen.trans (Reads.trans hts (hclose _ _)), ?_, ?_, ?_⟩
  · rw [Context.after_cons, Context.after_append]
    exact hbraces
  · rw [Context.after_cons, Context.after_append]
    exact congrArg List.tail hp
  · refine .cons (List.suffix_refl _) (StaysOpen.append hstays (.cons ?_ (.nil ?_)))
    · exact hb.symm ▸ List.suffix_refl _
    · exact hbraces.symm ▸ List.suffix_refl _

end Inert

end ComponentCompiler.Script
