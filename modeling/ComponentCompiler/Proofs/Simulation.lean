import ComponentCompiler.Proofs.Alignment
import ComponentCompiler.Proofs.Constructor
import ComponentCompiler.Proofs.Hooks

/-!
# Scanning a script and its rewritten form side by side

The scanner of a woven script stands in another context than the scanner of the script itself: the
wrapper has pushed a brace and a parenthesis, and offsets have moved. A `Simulation` is a relation
between the two contexts that every token of the script preserves; it has to say that both contexts
read slashes and closing braces alike. Any simulation carries a whole stretch of the script, with
its hooks rewritten, over to the woven script (`Simulation.hooked`).
-/

namespace ComponentCompiler.Script

open Traced (insertion keptFrom)

/-! ## Contexts that read alike -/

namespace Context

/-- The class and the text of the last token that carries code. -/
def look (ctx : Context) : Option (Kind × Bytes) := ctx.last.map fun t => (t.kind, t.text)

/-- Two contexts in which a slash means the same. -/
structure SlashAlike (ctx ctx' : Context) : Prop where
  look : ctx.look = ctx'.look
  condition : ctx.look = some (.punct, [Ascii.closeParen]) →
    ctx.afterCondition = ctx'.afterCondition

namespace SlashAlike

variable {ctx ctx' : Context}

theorem allowsRegex (h : SlashAlike ctx ctx') : ctx.allowsRegex = ctx'.allowsRegex := by
  obtain ⟨hlook, hcond⟩ := h
  unfold Context.look at hlook hcond
  unfold Context.allowsRegex
  cases hl : ctx.last with
  | none =>
      rw [hl] at hlook
      rw [Option.map_eq_none_iff.mp hlook.symm]
  | some t =>
      rw [hl] at hlook hcond
      obtain ⟨t', hl', heq⟩ := Option.map_eq_some_iff.mp hlook.symm
      obtain ⟨hkind, htext⟩ := Prod.mk.inj heq
      rw [hl']
      simp only [hkind, htext]
      cases hk : t.kind with
      | punct =>
          by_cases hp : t.text = [Ascii.closeParen]
          · simp [hp, hcond (by simp [hk, hp])]
          · simp [hp]
      | _ => rfl

theorem atControl (h : SlashAlike ctx ctx') : ctx.atControl = ctx'.atControl := by
  have hlook := h.look
  unfold Context.look at hlook
  unfold Context.atControl
  cases hl : ctx.last with
  | none =>
      rw [hl] at hlook
      rw [Option.map_eq_none_iff.mp hlook.symm]
  | some t =>
      rw [hl] at hlook
      obtain ⟨t', hl', heq⟩ := Option.map_eq_some_iff.mp hlook.symm
      obtain ⟨hkind, htext⟩ := Prod.mk.inj heq
      rw [hl']
      simp only [hkind, htext]

/-- A token may move; all that counts of the past is what the last closing parenthesis closed. -/
theorem advance (h : SlashAlike ctx ctx') (t : Token) (i : Nat)
    (hparen : t.isPunct Ascii.closeParen → ctx.parens.headD false = ctx'.parens.headD false) :
    SlashAlike (ctx.advance t) (ctx'.advance (t.moveTo i)) := by
  cases hs : t.isSignificant with
  | false =>
      have hs' : (t.moveTo i).isSignificant = false := hs
      rwa [advance_of_not_significant hs, advance_of_not_significant hs']
  | true =>
      have hlook : (ctx.advance t).look = some (t.kind, t.text) := by
        simp [Context.advance, Context.look, hs]
      have hlook' : (ctx'.advance (t.moveTo i)).look = some (t.kind, t.text) := by
        simp [Context.advance, Context.look, hs]
      refine ⟨hlook.trans hlook'.symm, fun hclose => ?_⟩
      obtain ⟨hk, ht⟩ := Prod.mk.inj (Option.some.inj (hlook.symm.trans hclose))
      have hpunct : t.isPunct Ascii.closeParen = true := by simp [Token.isPunct, hk, ht]
      simp only [Context.advance, Token.moveTo_isPunct, hpunct, if_true]
      exact hparen hpunct

end SlashAlike

/-- A token that can be read in the context: a closing brace is punctuation where the innermost
brace is one of code, and goes on with a template literal where that brace is one of a
substitution. -/
structure Admits (ctx : Context) (t : Token) : Prop where
  punct : t.isPunct Ascii.closeBrace → ctx.braces.head? ≠ some .substitution
  template : ∀ opens, t.kind = .template opens → t.text.head? = some Ascii.closeBrace →
    ctx.braces.head? = some .substitution

theorem admits_of_lexeme {ctx : Context} {b : UInt8} {tl s : Bytes} {k : Kind} {m : Nat}
    (h : lexeme ctx b s = (k, m)) (n : Nat) : ctx.Admits ⟨k, n, b :: tl⟩ where
  punct hp := by
    simp only [Token.isPunct, Bool.and_eq_true, beq_iff_eq, List.cons.injEq] at hp
    obtain ⟨rfl, rfl, _⟩ := hp
    exact head_ne_of_lexeme_punct h
  template opens hk hb := by
    obtain rfl : k = .template opens := hk
    obtain rfl : b = Ascii.closeBrace := by simpa using hb
    exact head_eq_of_lexeme_template h

end Context

/-! ## Braces that stay open -/

/-- The braces `outer` are open before the tokens `ts`, after them, and all the time between. -/
def StaysOpen (outer : List Brace) (ctx : Context) (ts : List Token) : Prop :=
  ∀ us, us <+: ts → outer <:+ (ctx.after us).braces

namespace StaysOpen

variable {outer : List Brace} {ctx : Context} {t : Token} {ts us : List Token}

theorem nil (h : outer <:+ ctx.braces) : StaysOpen outer ctx [] := by
  intro us hus
  rwa [List.prefix_nil.mp hus]

theorem cons (h : outer <:+ ctx.braces) (hts : StaysOpen outer (ctx.advance t) ts) :
    StaysOpen outer ctx (t :: ts) := by
  intro us hus
  rcases List.prefix_cons_iff.mp hus with rfl | ⟨vs, rfl, hvs⟩
  · exact h
  · exact hts vs hvs

theorem start (h : StaysOpen outer ctx ts) : outer <:+ ctx.braces := h [] List.nil_prefix

theorem append (hts : StaysOpen outer ctx ts) (hus : StaysOpen outer (ctx.after ts) us) :
    StaysOpen outer ctx (ts ++ us) := by
  induction ts generalizing ctx with
  | nil => exact hus
  | cons t ts ih =>
      refine .cons hts.start (ih (fun vs hvs => hts (t :: vs) ?_) hus)
      exact List.prefix_cons_inj t |>.mpr hvs

theorem mono {inner : List Brace} (h : StaysOpen inner ctx ts) (hsuffix : outer <:+ inner) :
    StaysOpen outer ctx ts := fun us hus => hsuffix.trans (h us hus)

end StaysOpen

/-! ## Simulations -/

/-- A relation between the context of the script and that of its rewritten form, given the tokens
of the script still to come, that each token preserves. The braces `outer` stay open in the
rewritten form. -/
structure Simulation (outer : List Brace) (R : Context → Context → List Token → Prop) : Prop where
  slash {ctx ctx' : Context} {ts : List Token} : R ctx ctx' ts → ctx.SlashAlike ctx'
  brace {ctx ctx' : Context} {ts : List Token} : R ctx ctx' ts →
    (ctx.braces.head? = some .substitution ↔ ctx'.braces.head? = some .substitution)
  stays {ctx ctx' : Context} {ts : List Token} : R ctx ctx' ts → outer <:+ ctx'.braces
  step {ctx ctx' : Context} {t : Token} {ts : List Token} : R ctx ctx' (t :: ts) → ctx.Admits t →
    ∀ i, R (ctx.advance t) (ctx'.advance (t.moveTo i)) ts

/-- The tokens of `this.` at an offset. -/
def memberTokens (n : Nat) : List Token :=
  [⟨.ident, n, Bytes.lit "this"⟩, ⟨.punct, n + 4, [Ascii.dot]⟩]

theorem reads_memberOf (ctx : Context) (n : Nat) (r : Bytes) :
    Reads ctx n memberOf r (memberTokens n) := by
  have hdot : ∀ ctx : Context, Reads ctx (n + 4) [Ascii.dot] r [⟨.punct, n + 4, [Ascii.dot]⟩] :=
    fun ctx => .mark (by decide)
  have hthis : Reads ctx n (Bytes.lit "this") ([Ascii.dot] ++ r) [⟨.ident, n, Bytes.lit "this"⟩] :=
    .single (by decide) (lexeme_of_ident (by decide) (by decide) _)
  exact hthis.trans (hdot _)

/-- Braces do not notice `this.`, and neither does the identifier behind it. -/
theorem braces_memberTokens (ctx : Context) (n : Nat) :
    StaysOpen ctx.braces ctx (memberTokens n) :=
  .cons (List.suffix_refl _) (.cons (List.suffix_refl _) (.nil (List.suffix_refl _)))

theorem advance_memberTokens {t : Token} (ht : t.kind = .ident) (ctx : Context) (n : Nat) :
    (ctx.after (memberTokens n)).advance t = ctx.advance t := by
  have hs : t.isSignificant = true := by simp [Token.isSignificant, ht]
  have hp : ∀ b, t.isPunct b = false := fun b => by simp [Token.isPunct, ht]
  simp only [Context.advance, hs, hp, Context.bracesAfter, ht]
  rfl

/-! ## Rewriting the hooks of a stretch -/

/-- The tokens of a script, wherever they have moved to, with `this.` before each identifier that
begins at one of the given offsets. -/
inductive Rewritten (offsets : List Nat) : List Token → List Token → Prop
  | nil : Rewritten offsets [] []
  | kept {t : Token} {ts' ts : List Token} (i : Nat) (hnot : t.start ∉ offsets)
      (h : Rewritten offsets ts' ts) : Rewritten offsets (t.moveTo i :: ts') (t :: ts)
  | hook {t : Token} {ts' ts : List Token} (i j : Nat) (hmem : t.start ∈ offsets)
      (hkind : t.kind = .ident) (h : Rewritten offsets ts' ts) :
      Rewritten offsets (memberTokens j ++ t.moveTo i :: ts') (t :: ts)

theorem Rewritten.append {offsets : List Nat} {ts ts' us us' : List Token}
    (hts : Rewritten offsets ts' ts) (hus : Rewritten offsets us' us) :
    Rewritten offsets (ts' ++ us') (ts ++ us) := by
  induction hts with
  | nil => exact hus
  | kept i hnot h ih => exact .kept i hnot ih
  | @hook t ts' ts i j hmem hkind h ih =>
      rw [List.append_assoc]
      exact .hook i j hmem hkind ih

/-- The given offsets of a stretch of code are those of bytes of identifiers. -/
def AtNames (offsets : List Nat) (n : Nat) (x : Bytes) : Prop :=
  ∀ i ∈ offsets, n ≤ i → ∀ b, x[i - n]? = some b → isIdentByte b

section

variable {offsets : List Nat} {n : Nat} {b : UInt8} {x : Bytes}

theorem AtNames.head (h : AtNames offsets n (b :: x)) (hn : n ∈ offsets) : isIdentByte b :=
  h n hn (Nat.le_refl n) b (by simp)

theorem AtNames.tail (h : AtNames offsets n (b :: x)) : AtNames offsets (n + 1) x := by
  intro i hi hle c hc
  refine h i hi (by omega) c ?_
  rwa [show i - n = i - (n + 1) + 1 by omega, List.getElem?_cons_succ]

theorem text_hooked_cons (offsets : List Nat) (n : Nat) (b : UInt8) (x : Bytes) :
    Traced.text (hooked offsets n (b :: x)) =
      (if n ∈ offsets then memberOf else []) ++ b :: Traced.text (hooked offsets (n + 1) x) := by
  rw [hooked, Traced.text_append, Traced.text_cons]
  split <;> simp [Traced.byte]

end

/-! ### Looking ahead for a regular expression -/

/-- A byte that the search for the end of a regular expression passes over. -/
def isFiller (b : UInt8) : Bool :=
  b != Ascii.backslash && b != Ascii.newline && b != Ascii.slash && b != Ascii.openBracket &&
    b != Ascii.closeBracket

theorem isFiller_of_isIdentByte {b : UInt8} (h : isIdentByte b) : isFiller b := by
  have hne : ∀ c : UInt8, isIdentByte c = false → b ≠ c := by
    rintro c hc rfl
    rw [hc] at h
    cases h
  simp only [isFiller, Bool.and_eq_true, bne_iff_ne]
  exact ⟨⟨⟨⟨hne _ (by decide), hne _ (by decide)⟩, hne _ (by decide)⟩, hne _ (by decide)⟩,
    hne _ (by decide)⟩

theorem regexRest?_filler {w : Bytes} (hw : ∀ b ∈ w, isFiller b) (inClass : Bool) (y : Bytes) :
    regexRest? inClass (w ++ y) = none ↔ regexRest? inClass y = none := by
  induction w with
  | nil => exact Iff.rfl
  | cons b w ih =>
      have hb := hw b List.mem_cons_self
      simp only [isFiller, Bool.and_eq_true, bne_iff_ne] at hb
      obtain ⟨⟨⟨⟨hbackslash, hnewline⟩, hslash⟩, hopen⟩, hclose⟩ := hb
      rw [List.cons_append, regexRest?_cons, if_neg hbackslash, if_neg hnewline,
        if_neg fun hs => hslash hs.1, Option.map_eq_none_iff, classAfter, if_neg hopen,
        if_neg hclose]
      exact ih fun c hc => hw c (List.mem_cons_of_mem b hc)

/-- No regular expression is found in a rewritten text where none is found in the text: what is
inserted neither ends one nor escapes what does. -/
theorem regexRest?_hooked {offsets : List Nat} {n : Nat} {x : Bytes} {inClass : Bool}
    (hnames : AtNames offsets n x) (h : regexRest? inClass x = none) :
    regexRest? inClass (Traced.text (hooked offsets n x)) = none := by
  induction x using shorter_induction generalizing n inClass with
  | nil => exact h
  | cons c s ih =>
      have hmember : ∀ b ∈ (if n ∈ offsets then memberOf else []), isFiller b := by
        split
        · exact List.all_eq_true.mp (by decide)
        · simp
      rw [text_hooked_cons, regexRest?_filler hmember, regexRest?_cons]
      rw [regexRest?_cons] at h
      by_cases hbackslash : c = Ascii.backslash
      · rw [if_pos hbackslash] at h ⊢
        cases s with
        | nil => rfl
        | cons d s =>
            rw [Option.map_eq_none_iff] at h
            have hrest := ih s (by simp) hnames.tail.tail h
            rw [text_hooked_cons]
            by_cases hd : n + 1 ∈ offsets
            · -- the backslash escapes the first inserted byte, and the name goes on unescaped
              have hhis : ∀ b ∈ Bytes.lit "his.", isFiller b := List.all_eq_true.mp (by decide)
              have hfiller : ∀ b ∈ Bytes.lit "his." ++ [d], isFiller b := by
                intro b hb
                rcases List.mem_append.mp hb with hb | hb
                · exact hhis b hb
                · rw [List.mem_singleton.mp hb]
                  exact isFiller_of_isIdentByte (hnames.tail.head hd)
              have hskip := (regexRest?_filler hfiller inClass _).mpr hrest
              rw [if_pos hd, show memberOf = 116 :: Bytes.lit "his." by decide, List.cons_append]
              rw [List.append_assoc, List.singleton_append] at hskip
              simp only [hskip, Option.map_none]
            · rw [if_neg hd, List.nil_append]
              simp only [hrest, Option.map_none]
      · rw [if_neg hbackslash] at h ⊢
        by_cases hnewline : c = Ascii.newline
        · rw [if_pos hnewline]
        · rw [if_neg hnewline] at h ⊢
          by_cases hslash : c = Ascii.slash ∧ ¬inClass
          · rw [if_pos hslash] at h
            cases h
          · rw [if_neg hslash, Option.map_eq_none_iff] at h ⊢
            exact ih s (Nat.le_refl _) hnames.tail h

/-- A rewritten text may stand behind a slash. -/
theorem followsSlash_hooked {offsets : List Nat} {n : Nat} {x : Bytes}
    (hnames : AtNames offsets n x) :
    FollowsSlash x (Traced.text (hooked offsets n x)) := by
  have hhead : ∀ b : UInt8, b ≠ 116 → (Traced.text (hooked offsets n x)).head? = some b →
      x.head? = some b := by
    intro b hb hx
    cases x with
    | nil => exact hx
    | cons c x =>
        rw [text_hooked_cons] at hx
        split at hx
        · exact absurd (Option.some.inj hx).symm hb
        · exact hx
  exact ⟨hhead _ (by decide), hhead _ (by decide), regexRest?_hooked hnames⟩

/-! ### Token by token -/

/-- What stands behind a token still ends it when the hooks are rewritten. -/
theorem follows_hooked {offsets : List Nat} {n : Nat} {x r r' : Bytes}
    (hnames : AtNames offsets n x) (hnext : Follows r r') :
    Follows (x ++ r) (Traced.text (hooked offsets n x) ++ r') := by
  cases x with
  | nil => exact hnext
  | cons b x =>
      by_cases href : n ∈ offsets
      · have hb : isIdentByte b = true := hnames.head href
        have hhead : (Traced.text (hooked offsets n (b :: x)) ++ r').head? = some 116 := by
          rw [hooked, if_pos href]
          rfl
        refine ⟨fun _ _ _ => ⟨b, rfl, hb⟩, fun hdot => ?_, fun hnl => ?_⟩
        · rw [hhead] at hdot
          exact absurd hdot (by decide)
        · obtain rfl : b = Ascii.newline := by simpa using hnl
          exact absurd hb (by decide)
      · refine .of_head ?_
        rw [hooked, if_neg href]
        rfl

section

variable {outer : List Brace} {R : Context → Context → List Token → Prop} {offsets : List Nat}
  {ctx ctx' : Context} {n : Nat} {ts : List Token}

/-- One token of the script. A reference to a hook becomes three tokens. -/
theorem Simulation.token (hR : Simulation outer R) {b : UInt8} {tl s s' : Bytes} {k : Kind}
    (hrel : R ctx ctx' (⟨k, n, b :: tl⟩ :: ts)) (hk : k ≠ .space)
    (hlex : lexeme ctx b (tl ++ s) = (k, tl.length))
    (hslash : k = .punct → b = Ascii.slash → FollowsSlash s s')
    (hrefs : ∀ i ∈ offsets, n ≤ i → i < n + (tl.length + 1) → i = n ∧ k = .ident)
    (hnext : Follows s s') (hend : s = [] → s' = []) (n' : Nat) :
    ∃ us, Carries ctx' n' (hooked offsets n (b :: tl)) s' us [⟨k, n, b :: tl⟩] ∧
      R (ctx.advance ⟨k, n, b :: tl⟩) (ctx'.after us) ts ∧ StaysOpen outer ctx' us ∧
      Rewritten offsets us [⟨k, n, b :: tl⟩] := by
  have hstep := hR.step hrel (Context.admits_of_lexeme hlex n)
  have hhooked : hooked offsets n (b :: tl) =
      (if n ∈ offsets then insertion memberOf else []) ++ keptFrom n (b :: tl) :=
    hooked_token fun i hlo hhi hmem => by
      have := (hrefs i hmem (by omega) hhi).1
      omega
  by_cases href : n ∈ offsets
  · obtain rfl : k = .ident := (hrefs n href (Nat.le_refl n) (by omega)).2
    have hb : isIdentByte b = true := isIdentByte_of_lexeme hlex
    have hlex' : lexeme (ctx'.after (memberTokens n')) b (tl ++ s') = (.ident, tl.length) := by
      refine lexeme_stable hlex hk (fun hp => by cases hp.1) ?_ ?_ hnext fun hs => .inl (hend hs)
      · rintro rfl
        exact absurd hb (by decide)
      · rintro rfl
        exact absurd hb (by decide)
    have hthis : Carries ctx' n' (insertion memberOf) (Traced.text (keptFrom n (b :: tl)) ++ s')
        (memberTokens n') [] := .insertion (reads_memberOf _ _ _)
    refine ⟨memberTokens n' ++ [⟨.ident, n' + (insertion memberOf).length, b :: tl⟩], ?_, ?_, ?_,
      .hook (t := ⟨.ident, n, b :: tl⟩) _ n' href rfl .nil⟩
    · rw [hhooked, if_pos href]
      exact hthis.trans (.token hk hlex' n)
    · rw [Context.after_append, Context.after_cons, Context.after_nil,
        advance_memberTokens rfl]
      exact hstep _
    · have hadv := hR.stays (hstep (n' + (insertion memberOf).length))
      have hopen := (braces_memberTokens ctx' n').mono (hR.stays hrel)
      refine hopen.append (.cons (hopen _ (List.prefix_refl _)) (.nil ?_))
      rw [advance_memberTokens rfl]
      exact hadv
  · have hlex' : lexeme ctx' b (tl ++ s') = (k, tl.length) := by
      have hregex := (hR.slash hrel).allowsRegex
      by_cases hp : k = .punct ∧ b = Ascii.slash
      · obtain ⟨rfl, rfl⟩ := hp
        obtain rfl : tl = [] := List.length_eq_zero_iff.mp (eq_zero_of_lexeme_punct hlex)
        exact lexeme_slash_stable hlex hregex (hslash rfl rfl)
      · exact lexeme_stable hlex hk hp (fun _ => hregex) (fun _ => hR.brace hrel) hnext
          fun hs => .inl (hend hs)
    refine ⟨[⟨k, n', b :: tl⟩], ?_, hstep n', .cons (hR.stays hrel) (.nil (hR.stays (hstep n'))),
      .kept (t := ⟨k, n, b :: tl⟩) n' href .nil⟩
    rw [hhooked, if_neg href]
    exact .token hk hlex' n

/-- A stretch of the script whose hooks are rewritten still reads as its tokens, in any context that
a simulation relates to its own. A slash that is punctuation looks ahead to the end of the line, so
it may stand in the stretch only if nothing is behind the stretch. -/
theorem Simulation.hooked (hR : Simulation outer R) {x r r' : Bytes} (h : Reads ctx n x r ts)
    (hslash : (∀ t ∈ ts, ¬t.isPunct Ascii.slash) ∨ (r = [] ∧ r' = []))
    (hrefs : ∀ i ∈ offsets, n ≤ i → i < n + x.length → ∃ t ∈ ts, t.start = i ∧ t.kind = .ident)
    (hnext : Follows r r') (hend : r = [] → r' = []) (hrel : R ctx ctx' ts) (n' : Nat) :
    ∃ ts', Carries ctx' n' (Script.hooked offsets n x) r' ts' ts ∧
      R (ctx.after ts) (ctx'.after ts') [] ∧ StaysOpen outer ctx' ts' ∧
        Rewritten offsets ts' ts := by
  induction h generalizing ctx' n' with
  | nil ctx n r => exact ⟨[], ⟨.nil _ _ _, .nil⟩, hrel, .nil (hR.stays hrel), .nil⟩
  | @space ctx n b x r ts hb h ih =>
      -- no token begins at white space, so nothing is inserted there
      have hnot : n ∉ offsets := by
        intro hmem
        obtain ⟨t, ht, hstart, _⟩ := hrefs n hmem (Nat.le_refl n) (by simp)
        have := (h.start_lt ht).1
        omega
      obtain ⟨ts', hcarries, hafter, hopen, hrewritten⟩ := ih hslash
        (fun i hi hlo hhi => hrefs i hi (by omega) (by rw [List.length_cons]; omega)) hnext
          hend hrel
        (n' + 1)
      refine ⟨ts', ?_, hafter, hopen, hrewritten⟩
      rw [Script.hooked, if_neg hnot]
      exact hcarries.space hb n
  | @token ctx n b tl x r k ts hk hlex h ih =>
      have hlen : (b :: (tl ++ x)).length = tl.length + 1 + x.length := by
        simp only [List.length_cons, List.length_append]
        omega
      have htoken : ∀ i ∈ offsets, n ≤ i → i < n + (tl.length + 1) → i = n ∧ k = .ident := by
        intro i hi hlo hhi
        obtain ⟨t, ht, hstart, hkind⟩ := hrefs i hi hlo (by omega)
        rcases List.mem_cons.mp ht with rfl | ht
        · exact ⟨hstart.symm, hkind⟩
        · have := (h.start_lt ht).1
          omega
      have hrest : ∀ i ∈ offsets, n + (tl.length + 1) ≤ i → i < n + (tl.length + 1) + x.length →
          ∃ t ∈ ts, t.start = i ∧ t.kind = .ident := by
        intro i hi hlo hhi
        obtain ⟨t, ht, hstart, hkind⟩ := hrefs i hi (by omega) (by omega)
        rcases List.mem_cons.mp ht with rfl | ht
        · simp only at hstart
          omega
        · exact ⟨t, ht, hstart, hkind⟩
      have hnames : AtNames offsets (n + (tl.length + 1)) x := by
        intro i hi hlo c hc
        have hlt := (List.getElem?_eq_some_iff.mp hc).1
        obtain ⟨t, ht, rfl, hkind⟩ := hrest i hi hlo (by omega)
        exact h.isIdentByte_of_start ht hkind hc
      have hpunct : k = .punct → b = Ascii.slash →
          FollowsSlash (x ++ r)
            (Traced.text (Script.hooked offsets (n + (tl.length + 1)) x) ++ r') := by
        rintro rfl rfl
        obtain rfl : tl = [] := List.length_eq_zero_iff.mp (eq_zero_of_lexeme_punct hlex)
        rcases hslash with hnone | ⟨rfl, rfl⟩
        · exact absurd rfl (hnone _ List.mem_cons_self)
        · rw [List.append_nil, List.append_nil]
          exact followsSlash_hooked hnames
      have hend' : x ++ r = [] →
          Traced.text (Script.hooked offsets (n + (tl.length + 1)) x) ++ r' = [] := by
        intro hs
        obtain ⟨rfl, hr⟩ := List.append_eq_nil_iff.mp hs
        simpa [Script.hooked] using hend hr
      obtain ⟨us, hus, hrel', hopen, hrewritten⟩ := hR.token hrel hk hlex hpunct htoken
        (follows_hooked hnames hnext) hend' n'
      obtain ⟨vs, hvs, hafter, hopen', hrewritten'⟩ := ih
        (hslash.imp_left fun hnone t ht => hnone t (List.mem_cons_of_mem _ ht)) hrest
        hnext hend hrel' (n' + (Script.hooked offsets n (b :: tl)).length)
      refine ⟨us ++ vs, ?_, ?_, hopen.append hopen', hrewritten.append hrewritten'⟩
      · rw [← List.cons_append, hooked_append]
        exact hus.trans hvs
      · simpa using hafter

end

/-! ## Outside the wrapper -/

/-- Two contexts with the same open braces and parentheses. -/
structure Alike (ctx ctx' : Context) : Prop extends ctx.SlashAlike ctx' where
  braces : ctx.braces = ctx'.braces
  parens : ctx.parens = ctx'.parens

theorem Alike.advance {ctx ctx' : Context} (h : Alike ctx ctx') (t : Token) (i : Nat) :
    Alike (ctx.advance t) (ctx'.advance (t.moveTo i)) := by
  refine ⟨h.toSlashAlike.advance t i fun _ => by rw [h.parens], ?_, ?_⟩
  · simp [Context.advance, Context.bracesAfter, h.braces]
  · simp only [Context.advance, h.parens, h.toSlashAlike.atControl]
    rfl

theorem alike_simulation : Simulation [] fun ctx ctx' _ => Alike ctx ctx' where
  slash h := h.toSlashAlike
  brace h := by rw [h.braces]
  stays _ := List.nil_suffix
  step h _ i := h.advance _ i

/-! ## Inside the wrapper -/

/-- Two contexts inside the body, before the tokens `ts` of it: the woven one has one more
brace and one more parenthesis open around what the body itself has opened, and the body closes
what it opens. -/
structure Wrapped (base : List Brace) (flags : List Bool) (flag : Bool) (ctx ctx' : Context)
    (ts : List Token) : Prop where
  slash : ctx.SlashAlike ctx'
  braces : ∃ up, ctx.braces = up ++ .code :: base ∧ ctx'.braces = up ++ .code :: .code :: base ∧
    nesting Ascii.openBrace Ascii.closeBrace (up.count .code) ts = some 0
  parens : ∃ up, ctx.parens = up ++ flags ∧ ctx'.parens = up ++ flag :: flags ∧
    nesting Ascii.openParen Ascii.closeParen up.length ts = some 0

/-- One token in front of a list that nests properly. -/
theorem nesting_cons {opener closer : UInt8} {depth : Nat} {t : Token} {ts : List Token}
    (h : nesting opener closer depth (t :: ts) = some 0) :
    (t.isPunct opener ∧ nesting opener closer (depth + 1) ts = some 0) ∨
    (¬t.isPunct opener ∧ t.isPunct closer ∧ depth ≠ 0 ∧
      nesting opener closer (depth - 1) ts = some 0) ∨
    (¬t.isPunct opener ∧ ¬t.isPunct closer ∧ nesting opener closer depth ts = some 0) := by
  rw [nesting, nestingStep] at h
  by_cases hopen : t.isPunct opener = true
  · rw [if_pos hopen] at h
    exact .inl ⟨hopen, h⟩
  · rw [if_neg hopen] at h
    by_cases hclose : t.isPunct closer = true
    · rw [if_pos hclose] at h
      by_cases hd : depth = 0
      · rw [if_pos hd] at h
        cases h
      · rw [if_neg hd] at h
        exact .inr (.inl ⟨hopen, hclose, hd, h⟩)
    · rw [if_neg hclose] at h
      exact .inr (.inr ⟨hopen, hclose, h⟩)

namespace Context

variable {t : Token}

theorem bracesAfter_open (h : t.isPunct Ascii.openBrace) (ctx : Context) :
    ctx.bracesAfter t = .code :: ctx.braces := by
  obtain ⟨hk, ht⟩ := Token.isPunct_iff.mp h
  simp [bracesAfter, hk, ht]

theorem bracesAfter_close (h : t.isPunct Ascii.closeBrace) (ctx : Context) :
    ctx.bracesAfter t = ctx.braces.tail := by
  obtain ⟨hk, ht⟩ := Token.isPunct_iff.mp h
  simp [bracesAfter, hk, ht, show Ascii.closeBrace ≠ Ascii.openBrace by decide]

/-- Any other token that is no part of a template literal leaves the braces alone. -/
theorem bracesAfter_other (hopen : ¬t.isPunct Ascii.openBrace)
    (hclose : ¬t.isPunct Ascii.closeBrace) (htemplate : ∀ opens, t.kind ≠ .template opens)
    (ctx : Context) :
    ctx.bracesAfter t = ctx.braces := by
  unfold bracesAfter
  cases hk : t.kind with
  | punct => simp_all [Token.isPunct]
  | template opens => exact absurd hk (htemplate opens)
  | _ => rfl

end Context

/-- A stretch of a template literal closes a substitution only if one is innermost. -/
theorem bracesAfter_template {ctx : Context} {t : Token} {opens : Bool}
    (hkind : t.kind = .template opens) (hadmits : ctx.Admits t) {up below : List Brace}
    (hbraces : ctx.braces = up ++ .code :: below) :
    ∃ up', up'.count .code = up.count .code ∧ ∀ ctx' : Context, ∀ below' : List Brace, ∀ i,
      ctx'.braces = up ++ .code :: below' →
        ctx'.bracesAfter (t.moveTo i) = up' ++ .code :: below' := by
  by_cases hclose : t.text.head? = some Ascii.closeBrace
  · have hhead := hadmits.template opens hkind hclose
    cases up with
    | nil => simp [hbraces] at hhead
    | cons b up =>
        obtain rfl : b = .substitution := by simpa [hbraces] using hhead
        refine ⟨if opens then .substitution :: up else up, by cases opens <;> simp, ?_⟩
        intro ctx' below' i hctx'
        cases opens <;> simp [Context.bracesAfter, hkind, hclose, hctx']
  · refine ⟨if opens then .substitution :: up else up, by cases opens <;> simp, ?_⟩
    intro ctx' below' i hctx'
    cases opens <;> simp [Context.bracesAfter, hkind, hclose, hctx']

section

variable {base : List Brace} {flags : List Bool} {flag : Bool} {ctx ctx' : Context} {t : Token}
  {ts : List Token}

theorem Wrapped.step_braces (h : Wrapped base flags flag ctx ctx' (t :: ts))
    (hadmits : ctx.Admits t) (i : Nat) :
    ∃ up, ctx.bracesAfter t = up ++ .code :: base ∧
      ctx'.bracesAfter (t.moveTo i) = up ++ .code :: .code :: base ∧
      nesting Ascii.openBrace Ascii.closeBrace (up.count .code) ts = some 0 := by
  obtain ⟨up, hctx, hctx', hnest⟩ := h.braces
  rcases nesting_cons hnest with ⟨hopen, hn⟩ | ⟨_, hclose, hd, hn⟩ | ⟨hopen, hclose, hn⟩
  · refine ⟨.code :: up, ?_, ?_, by simpa using hn⟩
    · rw [Context.bracesAfter_open hopen, hctx, List.cons_append]
    · rw [Context.bracesAfter_open (by simpa using hopen), hctx', List.cons_append]
  · -- the body closes a brace of its own
    have hhead := hadmits.punct hclose
    cases up with
    | nil => simp at hd
    | cons b up =>
        cases b with
        | substitution => simp [hctx] at hhead
        | code =>
            refine ⟨up, ?_, ?_, by simpa using hn⟩
            · rw [Context.bracesAfter_close hclose, hctx, List.cons_append, List.tail_cons]
            · rw [Context.bracesAfter_close (by simpa using hclose), hctx', List.cons_append,
                List.tail_cons]
  · by_cases htemplate : ∃ opens, t.kind = .template opens
    · obtain ⟨opens, hk⟩ := htemplate
      obtain ⟨up', hcount, hafter⟩ := bracesAfter_template hk hadmits hctx
      exact ⟨up', hafter ctx base t.start hctx, hafter ctx' _ i hctx', by rwa [hcount]⟩
    · have hkind : ∀ opens, t.kind ≠ .template opens := fun opens hk => htemplate ⟨opens, hk⟩
      refine ⟨up, ?_, ?_, hn⟩
      · rw [Context.bracesAfter_other hopen hclose hkind, hctx]
      · rw [Context.bracesAfter_other (by simpa using hopen) (by simpa using hclose)
          (by simpa using hkind), hctx']

theorem Wrapped.step_parens (h : Wrapped base flags flag ctx ctx' (t :: ts)) (i : Nat) :
    ∃ up, (ctx.advance t).parens = up ++ flags ∧
      (ctx'.advance (t.moveTo i)).parens = up ++ flag :: flags ∧
      nesting Ascii.openParen Ascii.closeParen up.length ts = some 0 := by
  obtain ⟨up, hctx, hctx', hnest⟩ := h.parens
  rcases nesting_cons hnest with ⟨hopen, hn⟩ | ⟨hopen, hclose, hd, hn⟩ | ⟨hopen, hclose, hn⟩
  · refine ⟨ctx.atControl :: up, ?_, ?_, by simpa using hn⟩
    · simp [Context.advance, hopen, hctx]
    · simp [Context.advance, hopen, hctx', h.slash.atControl]
  · cases up with
    | nil => simp at hd
    | cons b up =>
        refine ⟨up, ?_, ?_, by simpa using hn⟩
        · simp [Context.advance, hopen, hclose, hctx]
        · simp [Context.advance, hopen, hclose, hctx']
  · exact ⟨up, by simpa [Context.advance, hopen, hclose] using hctx,
      by simpa [Context.advance, hopen, hclose] using hctx', hn⟩

/-- A parenthesis that the body closes is one of its own. -/
theorem Wrapped.headD_parens (h : Wrapped base flags flag ctx ctx' (t :: ts))
    (hclose : t.isPunct Ascii.closeParen) : ctx.parens.headD false = ctx'.parens.headD false := by
  obtain ⟨up, hctx, hctx', hnest⟩ := h.parens
  have hopen : t.isPunct Ascii.openParen = false := by
    obtain ⟨hk, ht⟩ := Token.isPunct_iff.mp hclose
    simp [Token.isPunct, hk, ht, show Ascii.closeParen ≠ Ascii.openParen by decide]
  rcases nesting_cons hnest with ⟨hopen', _⟩ | ⟨_, _, hd, _⟩ | ⟨_, hclose', _⟩
  · rw [hopen] at hopen'
    cases hopen'
  · cases up with
    | nil => simp at hd
    | cons b up => rw [hctx, hctx']; rfl
  · exact absurd hclose hclose'

end

theorem wrapped_simulation (base : List Brace) (flags : List Bool) (flag : Bool) :
    Simulation (.code :: .code :: base) (Wrapped base flags flag) where
  slash h := h.slash
  brace h := by
    obtain ⟨up, hctx, hctx', _⟩ := h.braces
    rw [hctx, hctx']
    cases up with
    | nil => simp
    | cons b up => simp
  stays h := by
    obtain ⟨up, _, hctx', _⟩ := h.braces
    rw [hctx']
    exact List.suffix_append up _
  step {ctx ctx' t ts} h hadmits i :=
    ⟨h.slash.advance t i fun hclose => h.headD_parens hclose, h.step_braces hadmits i,
      h.step_parens i⟩

end ComponentCompiler.Script
