import ComponentCompiler.Proofs.PlainText
import ComponentCompiler.Proofs.Weave

/-!
# Weaving keeps the tokens of the script

The woven script is read stretch by stretch: the code in front of the body, the wrapper's
opening, the body, the inserted ending and the code behind the body. The stretches of code are
carried over by simulations, and the inserted texts are inert but for the brace and the
parenthesis of the wrapper.
-/

namespace ComponentCompiler.Script

/-! ## Matching braces -/

/-- Among tokens that are read in the context `ctx`, the brace at offset `j` closes the one at
offset `i`: what the opener pushes stays on the stack of braces until the closer finds it on top. -/
def BracesMatch (ctx : Context) (ts : List Token) (i j : Nat) : Prop :=
  ∃ before opener inner closer behind,
    ts = before ++ opener :: (inner ++ closer :: behind) ∧
    opener.start = i ∧ opener.isPunct Ascii.openBrace ∧
    closer.start = j ∧ closer.isPunct Ascii.closeBrace ∧
    StaysOpen (.code :: (ctx.after before).braces) ((ctx.after before).advance opener) inner ∧
    (((ctx.after before).advance opener).after inner).braces = .code :: (ctx.after before).braces

theorem BracesMatch.append {ctx : Context} {ts : List Token} {i j : Nat} (us vs : List Token)
    (h : BracesMatch (ctx.after us) ts i j) : BracesMatch ctx (us ++ (ts ++ vs)) i j := by
  obtain ⟨before, opener, inner, closer, behind, rfl, h⟩ := h
  refine ⟨us ++ before, opener, inner, closer, behind ++ vs, by simp, ?_⟩
  simpa using h

theorem Context.after_solid (ctx : Context) (ts : List Token) :
    ctx.after (solid ts) = ctx.after ts := by
  rw [← Context.after_significant, significant_solid, Context.after_significant]

theorem StaysOpen.of_solid {outer : List Brace} {ctx : Context} {ts : List Token}
    (h : StaysOpen outer ctx (solid ts)) : StaysOpen outer ctx ts := by
  intro us hus
  have := h (solid us) (hus.filter _)
  rwa [Context.after_solid] at this

/-- White space does not matter. -/
theorem BracesMatch.of_solid {ctx : Context} {ts : List Token} {i j : Nat}
    (h : BracesMatch ctx (solid ts) i j) : BracesMatch ctx ts i j := by
  obtain ⟨before, opener, inner, closer, behind, hts, hi, hopen, hj, hclose, hstays, htop⟩ := h
  obtain ⟨before', more, rfl, rfl, hmore⟩ := exists_split_of_filter hts
  obtain ⟨inner', behind', rfl, rfl, _⟩ := exists_split_of_filter hmore
  refine ⟨before', opener, inner', closer, behind', rfl, hi, hopen, hj, hclose, ?_⟩
  rw [← Context.after_solid ctx]
  refine ⟨.of_solid hstays, ?_⟩
  rwa [← Context.after_solid _ inner']

/-! ## The parts of a cut script -/

/-- The tokens between the braces of the body. -/
def Constructor.bodyTokens (c : Constructor) (code : Bytes) : List Token :=
  (scan code).filter fun t => c.opening < t.start && t.start < c.closing

namespace Cut

variable {code : Bytes} {c : Constructor}

/-- Which part of the script a token belongs to. -/
theorem mem_cases (cut : Cut code c) {t : Token} (ht : t ∈ solid (scan code)) :
    (t ∈ cut.before ∧ t.start < c.opening) ∨ t = c.openToken ∨
    (t ∈ cut.inner ∧ c.opening < t.start ∧ t.start < c.closing) ∨ t = c.closeToken ∨
    (t ∈ cut.behind ∧ c.closing < t.start) := by
  have hopening := cut.opening_eq
  have hclosing := cut.closing_eq
  rw [cut.solid_eq] at ht
  simp only [List.mem_append, List.mem_cons] at ht
  rcases ht with ht | rfl | ht | rfl | ht
  · have := (cut.reads_front.start_lt ht).2
    exact .inl ⟨ht, by omega⟩
  · exact .inr (.inl rfl)
  · obtain ⟨hlo, hhi⟩ := cut.reads_body.start_lt ht
    exact .inr (.inr (.inl ⟨ht, by omega, by omega⟩))
  · exact .inr (.inr (.inr (.inl rfl)))
  · have := (cut.reads_back.start_lt ht).1
    exact .inr (.inr (.inr (.inr ⟨ht, by omega⟩)))

/-- The tokens of the body are those between its braces. -/
theorem nesting_bodyTokens (cut : Cut code c) (opener closer : UInt8) :
    nesting opener closer 0 (c.bodyTokens code) = nesting opener closer 0 cut.inner := by
  have hinner : (solid (scan code)).filter (fun t => c.opening < t.start && t.start < c.closing) =
      cut.inner := by
    have hopening := cut.opening_eq
    have hclosing := cut.closing_eq
    rw [cut.solid_eq, List.filter_append, List.filter_cons_of_neg (by simp), List.filter_append,
      List.filter_cons_of_neg (by simp), List.filter_eq_nil_iff.mpr, List.filter_eq_self.mpr,
      List.filter_eq_nil_iff.mpr, List.nil_append, List.append_nil]
    · intro t ht
      have := (cut.reads_back.start_lt ht).1
      simp only [Bool.and_eq_true, decide_eq_true_eq]
      omega
    · intro t ht
      have := cut.reads_body.start_lt ht
      simp only [Bool.and_eq_true, decide_eq_true_eq]
      omega
    · intro t ht
      have := (cut.reads_front.start_lt ht).2
      simp only [Bool.and_eq_true, decide_eq_true_eq]
      omega
  rw [← nesting_significant, ← nesting_significant _ _ _ cut.inner, ← hinner]
  congr 1
  simp only [Constructor.bodyTokens, significant, solid, List.filter_filter]
  congr 1
  funext t
  cases hk : t.kind != .space <;> simp [Token.isSignificant, hk]

section

variable (cut : Cut code c) (hooks : List Bytes)

/-- The references to hooks in one part of the script are tokens of that part. -/
theorem hook_mem_before {i : Nat} (hi : i ∈ hookOffsets code hooks) (hlt : i < c.opening) :
    ∃ t ∈ cut.before, t.start = i ∧ t.kind = .ident := by
  have hopening := cut.opening_eq
  have hclosing := cut.closing_eq
  obtain ⟨t, ht, rfl, hkind⟩ := exists_token_of_mem_hookOffsets hi
  rcases cut.mem_cases ht with ⟨ht, _⟩ | rfl | ⟨_, _, _⟩ | rfl | ⟨_, _⟩
  · exact ⟨t, ht, rfl, hkind⟩
  · cases hkind
  · omega
  · cases hkind
  · omega

theorem hook_mem_inner {i : Nat} (hi : i ∈ hookOffsets code hooks) (hgt : c.opening < i)
    (hlt : i < c.closing) : ∃ t ∈ cut.inner, t.start = i ∧ t.kind = .ident := by
  obtain ⟨t, ht, rfl, hkind⟩ := exists_token_of_mem_hookOffsets hi
  rcases cut.mem_cases ht with ⟨_, _⟩ | rfl | ⟨ht, _, _⟩ | rfl | ⟨_, _⟩
  · omega
  · cases hkind
  · exact ⟨t, ht, rfl, hkind⟩
  · cases hkind
  · omega

theorem hook_mem_behind {i : Nat} (hi : i ∈ hookOffsets code hooks) (hgt : c.closing < i) :
    ∃ t ∈ cut.behind, t.start = i ∧ t.kind = .ident := by
  have hopening := cut.opening_eq
  have hclosing := cut.closing_eq
  obtain ⟨t, ht, rfl, hkind⟩ := exists_token_of_mem_hookOffsets hi
  rcases cut.mem_cases ht with ⟨_, _⟩ | rfl | ⟨_, _, _⟩ | rfl | ⟨ht, _⟩
  · omega
  · cases hkind
  · omega
  · cases hkind
  · exact ⟨t, ht, rfl, hkind⟩

variable (hslash : ∀ t ∈ solid (scan code), ¬t.isPunct Ascii.slash)

include hslash

/-- The code in front of the body. -/
theorem carries_front {r : Bytes} (hr : r.head? = some Ascii.openBrace) :
    ∃ ts, Carries {} 0 (hooked (hookOffsets code hooks) 0 cut.front) r ts cut.before ∧
      Alike (Context.after {} cut.before) (Context.after {} ts) := by
  have hslash' : ∀ t ∈ cut.before, ¬t.isPunct Ascii.slash := fun t ht =>
    hslash t (by rw [cut.solid_eq]; simp [ht])
  have hrefs : ∀ i ∈ hookOffsets code hooks, 0 ≤ i → i < 0 + cut.front.length →
      ∃ t ∈ cut.before, t.start = i ∧ t.kind = .ident := fun i hi _ hlt =>
    cut.hook_mem_before hooks hi (by rw [cut.opening_eq]; omega)
  obtain ⟨ts, hcarries, halike, _⟩ := alike_simulation.hooked cut.reads_front (.inl hslash') hrefs
    (.of_head hr) (by simp) ⟨⟨rfl, fun _ => rfl⟩, rfl, rfl⟩ 0
  exact ⟨ts, hcarries, halike⟩

/-- The code behind the body. -/
theorem carries_back {ctx : Context}
    (halike : Alike (((c.bodyContext cut.before).after cut.inner).advance c.closeToken) ctx)
    (n : Nat) :
    ∃ ts, Carries ctx n (hooked (hookOffsets code hooks) (c.closing + 1) cut.back)
      [] ts cut.behind := by
  have hslash' : ∀ t ∈ cut.behind, ¬t.isPunct Ascii.slash := fun t ht =>
    hslash t (by rw [cut.solid_eq]; simp [ht])
  have hrefs : ∀ i ∈ hookOffsets code hooks, c.closing + 1 ≤ i →
      i < c.closing + 1 + cut.back.length → ∃ t ∈ cut.behind, t.start = i ∧ t.kind = .ident :=
    fun i hi hlo _ => cut.hook_mem_behind hooks hi (by omega)
  obtain ⟨ts, hcarries, _, _⟩ := alike_simulation.hooked cut.reads_back (.inl hslash') hrefs
    (.refl []) (fun _ => rfl) halike n
  exact ⟨ts, hcarries⟩

/-- The body, in a context that has one more brace and one more parenthesis open. Both scanners have
closed in the end what the body opens. -/
theorem carries_body (hparens : nesting Ascii.openParen Ascii.closeParen 0 cut.inner = some 0)
    {ctx : Context} {flag : Bool} (halike : (c.bodyContext cut.before).SlashAlike ctx)
    (hbraces : ctx.braces = .code :: (c.bodyContext cut.before).braces)
    (hflags : ctx.parens = flag :: (c.bodyContext cut.before).parens) {r : Bytes}
    (hnext : Follows (Ascii.closeBrace :: cut.back) r) (n : Nat) :
    ∃ ts, Carries ctx n (hooked (hookOffsets code hooks) (c.opening + 1) cut.body) r ts cut.inner ∧
      (ctx.after ts).braces = ctx.braces ∧ (ctx.after ts).parens = ctx.parens ∧
      StaysOpen ctx.braces ctx ts ∧
      ((c.bodyContext cut.before).after cut.inner).braces = (c.bodyContext cut.before).braces ∧
      ((c.bodyContext cut.before).after cut.inner).parens = (c.bodyContext cut.before).parens := by
  have hslash' : ∀ t ∈ cut.inner, ¬t.isPunct Ascii.slash := fun t ht =>
    hslash t (by rw [cut.solid_eq]; simp [ht])
  have hrefs : ∀ i ∈ hookOffsets code hooks, c.opening + 1 ≤ i →
      i < c.opening + 1 + cut.body.length → ∃ t ∈ cut.inner, t.start = i ∧ t.kind = .ident :=
    fun i hi hlo hhi => cut.hook_mem_inner hooks hi (by omega)
      (by rw [cut.closing_eq, ← cut.opening_eq]; exact hhi)
  have hbase : (c.bodyContext cut.before).braces = .code :: (Context.after {} cut.before).braces :=
    rfl
  have hstart : Wrapped (Context.after {} cut.before).braces (c.bodyContext cut.before).parens flag
      (c.bodyContext cut.before) ctx cut.inner :=
    ⟨halike, ⟨[], hbase, by rw [hbraces, hbase]; rfl, cut.nested⟩, ⟨[], rfl, hflags, hparens⟩⟩
  obtain ⟨ts, hcarries, hend, hstays, _⟩ := (wrapped_simulation _ _ flag).hooked cut.reads_body
    (.inl hslash') hrefs hnext (by simp) hstart n
  obtain ⟨up, hup, hup', hcount⟩ := hend.braces
  obtain ⟨vp, hvp, hvp', hlen⟩ := hend.parens
  -- the closing brace of the body is punctuation, so no substitution is open above it
  have hhead := head_ne_of_lexeme_punct cut.reads_close.lexeme_of_single
  have hnil : up = [] := by
    cases up with
    | nil => rfl
    | cons b up =>
        cases b with
        | code => simp [nesting] at hcount
        | substitution => simp [hup] at hhead
  have hnil' : vp = [] := List.length_eq_zero_iff.mp (Option.some.inj hlen)
  subst hnil hnil'
  refine ⟨ts, hcarries, ?_, ?_, ?_, ?_, ?_⟩
  · rw [hup', hbraces, hbase]
    rfl
  · rw [hvp', hflags]
    rfl
  · rw [hbraces, hbase]
    exact hstays
  · rw [hup, hbase]
    rfl
  · rw [hvp]
    rfl

end

end Cut

end ComponentCompiler.Script

namespace ComponentCompiler.Component

open Script
open Script.Traced (insertion keptFrom)

/-! ## The inserted texts -/

/-- The line of a sub-component is inert wherever it stands. -/
theorem inert_factoryLine {e : Template.Entry} (hkey : scan e.key = [⟨.ident, 0, e.key⟩])
    (hexpr : isPlainText e.expr) (r : Bytes) : Inert (factoryLine e) r := by
  have hkey' : isPlainText e.key = true := by
    simp [isPlainText, hkey, Token.isPlain, brackets?, bracketsAfter?, bracketPairs, Token.isPunct]
  have hline : factoryLine e =
      (Render.indent ++ Bytes.lit "const") ++
        ([Ascii.space] ++ (e.key ++ (Bytes.lit " = (props) =>" ++
        ([Ascii.space] ++ (e.expr ++ (Bytes.lit ";" ++ [Ascii.newline])))))) := by
    simp [factoryLine, show Bytes.lit "const " = Bytes.lit "const" ++ [Ascii.space] by decide,
      show Bytes.lit " = (props) => " = Bytes.lit " = (props) =>" ++ [Ascii.space] by decide,
      show Bytes.lit ";\n" = Bytes.lit ";" ++ [Ascii.newline] by decide]
  rw [hline]
  refine .append (.of_isPlainText_cons (by decide +kernel) (by decide) (by decide)) <|
    .append (.of_spaces (by decide +kernel)) <| .append ?_ <|
    .append (.of_isPlainText_cons (by decide +kernel) (by decide) (by decide)) <|
    .append (.of_spaces (by decide +kernel)) <| .append ?_ <|
    .append (.of_isPlainText_cons (by decide +kernel) (by decide) (by decide))
      (.of_spaces (by decide +kernel))
  · exact .of_isPlainText hkey'
      (follows_cons (b := Ascii.space) (by decide) (by decide) (by simp) _)
  · exact .of_isPlainText hexpr
      (follows_cons (b := Ascii.semicolon) (by decide) (by decide) (by simp) _)

theorem inert_returnLine {main : Bytes} (hmain : isPlainText main) (r : Bytes) :
    Inert (returnLine main) r := by
  have hline : returnLine main =
      (Bytes.lit "\n" ++ Render.indent ++ Bytes.lit "return") ++ ([Ascii.space] ++
        ((Ascii.openParen :: (main ++ [Ascii.closeParen])) ++
          (Bytes.lit ";" ++ [Ascii.newline]))) := by
    simp [returnLine,
      show Bytes.lit "return (" = Bytes.lit "return" ++ [Ascii.space, Ascii.openParen] by decide,
      show Bytes.lit ");\n" = Ascii.closeParen :: (Bytes.lit ";" ++ [Ascii.newline]) by decide]
  rw [hline]
  refine .append (.of_isPlainText_cons (by decide +kernel) (by decide) (by decide)) <|
    .append (.of_spaces (by decide +kernel)) <| .append (.parens ?_) <|
    .append (.of_isPlainText_cons (by decide +kernel) (by decide) (by decide))
      (.of_spaces (by decide +kernel))
  exact .of_isPlainText_cons hmain (by decide) (by decide)

/-- A registry whose keys are identifiers and whose expressions are plain. -/
structure PlainRegistry (registry : Template.Registry) : Prop where
  keys : ∀ e ∈ registry.entries, scan e.key = [⟨.ident, 0, e.key⟩]
  exprs : ∀ e ∈ registry.entries, isPlainText e.expr

theorem inert_renderEnding {main : Bytes} {registry : Template.Registry} (hmain : isPlainText main)
    (hregistry : PlainRegistry registry) (before r : Bytes) :
    Inert (renderEnding before main registry) r := by
  have hfresh : ∀ b ∈ freshLine before, isSpaceByte b := by
    unfold freshLine
    split
    · simp
    · decide +kernel
  have hlines : ∀ (es : List Template.Entry) (s : Bytes), (∀ e ∈ es, e ∈ registry.entries) →
      Inert (es.flatMap factoryLine) s := by
    intro es s
    induction es with
    | nil => exact fun _ => .of_spaces (by simp)
    | cons e es ih =>
        intro hes
        have he := hes e List.mem_cons_self
        rw [List.flatMap_cons]
        exact .append (inert_factoryLine (hregistry.keys e he) (hregistry.exprs e he) _)
          (ih fun e' he' => hes e' (List.mem_cons_of_mem e he'))
  rw [renderEnding_eq, List.append_assoc]
  exact .append (.of_spaces hfresh) (.append (hlines _ _ fun _ he => he) (inert_returnLine hmain r))

/-- The end of the render function starts with white space. -/
theorem renderEnding_cons (before main : Bytes) (registry : Template.Registry) :
    ∃ b rest, renderEnding before main registry = b :: rest ∧
      (b = Ascii.newline ∨ b = Ascii.space) := by
  rw [renderEnding_eq]
  unfold freshLine
  split
  · cases registry.entries with
    | nil => exact ⟨_, _, rfl, .inl rfl⟩
    | cons e es => exact ⟨_, _, rfl, .inr rfl⟩
  · exact ⟨_, _, rfl, .inl rfl⟩

/-- The wrapper opens a parenthesis and, as its last token, a brace. -/
theorem reads_wrapperOpening (ctx : Context) (n : Nat) (r : Bytes) :
    ∃ ts flag, Reads ctx n wrapperOpening r
        (ts ++ [⟨.punct, n + wrapperOpening.idxOf Ascii.openBrace, [Ascii.openBrace]⟩]) ∧
      (ctx.after ts).braces = ctx.braces ∧ (ctx.after ts).parens = flag :: ctx.parens ∧
      StaysOpen ctx.braces ctx ts := by
  let call := Bytes.lit "\n" ++ Render.indent ++ Bytes.lit "return new Component"
  let params := Bytes.lit "props, el, function ()" ++ [Ascii.space]
  have hcall : Inert call (Ascii.openParen :: (params ++ [Ascii.openBrace] ++ r)) :=
    .of_isPlainText_cons (by decide +kernel) (by decide) (by decide)
  have hparams : Inert params (Ascii.openBrace :: r) :=
    .append (.of_isPlainText_cons (by decide +kernel) (by decide) (by decide))
      (.of_spaces (by decide +kernel))
  obtain ⟨us, hus, hb, hp, hstays⟩ := hcall ctx n
  let paren : Token := ⟨.punct, n + call.length, [Ascii.openParen]⟩
  obtain ⟨vs, hvs, hb', hp', hstays'⟩ :=
    hparams ((ctx.after us).advance paren) (n + call.length + 1)
  have hbraces : ((ctx.after us).advance paren).braces = ctx.braces := hb
  have hflags : ((ctx.after us).advance paren).parens = (ctx.after us).atControl :: ctx.parens :=
    congrArg _ hp
  have hidx : n + wrapperOpening.idxOf Ascii.openBrace = n + call.length + 1 + params.length := by
    rw [show wrapperOpening.idxOf Ascii.openBrace = call.length + 1 + params.length by decide]
    omega
  have hreads : Reads ctx n (call ++ ([Ascii.openParen] ++ (params ++ [Ascii.openBrace]))) r
      (us ++ ([paren] ++ (vs ++
        [⟨.punct, n + call.length + 1 + params.length, [Ascii.openBrace]⟩]))) :=
    hus.trans (Reads.trans (.mark (by decide)) (hvs.trans (.mark (by decide))))
  refine ⟨us ++ paren :: vs, (ctx.after us).atControl, ?_, ?_, ?_, ?_⟩
  · rw [hidx, show wrapperOpening = call ++ ([Ascii.openParen] ++ (params ++ [Ascii.openBrace])) by
      decide]
    simpa using hreads
  · rw [Context.after_append, Context.after_cons, hb', hbraces]
  · rw [Context.after_append, Context.after_cons, hp', hflags]
  · rw [hbraces] at hstays'
    exact hstays.append (.cons (hb.symm ▸ List.suffix_refl _) hstays')

/-- The tokens of the wrapper's closing. -/
def closingTokens (n : Nat) : List Token :=
  [⟨.punct, n + wrapperClosing.idxOf Ascii.closeBrace, [Ascii.closeBrace]⟩,
    ⟨.punct, n + wrapperClosing.idxOf Ascii.closeParen, [Ascii.closeParen]⟩,
    ⟨.punct, n + wrapperClosing.idxOf Ascii.semicolon, [Ascii.semicolon]⟩]

theorem reads_wrapperClosing {ctx : Context} (h : ctx.braces.head? ≠ some .substitution) (n : Nat)
    (r : Bytes) : Reads ctx n wrapperClosing r (closingTokens n) := by
  have hclose : Reads ctx (n + 5) [Ascii.closeBrace]
      ([Ascii.closeParen] ++ ([Ascii.semicolon] ++ [Ascii.newline]) ++ r)
      [⟨.punct, n + 5, [Ascii.closeBrace]⟩] := .single (by decide) (lexeme_of_closeBrace h _)
  have hparen : ∀ ctx : Context, Reads ctx (n + 6) [Ascii.closeParen]
      ([Ascii.semicolon] ++ [Ascii.newline] ++ r) [⟨.punct, n + 6, [Ascii.closeParen]⟩] :=
    fun ctx => .mark (by decide)
  have hsemicolon : ∀ ctx : Context, Reads ctx (n + 7) [Ascii.semicolon] ([Ascii.newline] ++ r)
      [⟨.punct, n + 7, [Ascii.semicolon]⟩] := fun ctx => .mark (by decide)
  have hnewline : ∀ ctx : Context, Reads ctx (n + 8) [Ascii.newline] r [] :=
    fun ctx => .space rfl (.nil _ _ _)
  have hspaces : ∀ b ∈ Bytes.lit "\n    ", isSpaceByte b := by decide +kernel
  rw [show wrapperClosing = Bytes.lit "\n    " ++ ([Ascii.closeBrace] ++
    ([Ascii.closeParen] ++ ([Ascii.semicolon] ++ [Ascii.newline]))) by decide]
  exact .spaces hspaces (hclose.trans ((hparen _).trans ((hsemicolon _).trans (hnewline _))))

/-- The wrapper's closing closes one brace and one parenthesis. -/
theorem after_closingTokens (ctx : Context) (n : Nat) :
    (ctx.after (closingTokens n)).braces = ctx.braces.tail ∧
      (ctx.after (closingTokens n)).parens = ctx.parens.tail ∧
      StaysOpen ctx.braces.tail ctx (closingTokens n) := by
  refine ⟨rfl, rfl, .cons (List.tail_suffix _) (.cons ?_ (.cons ?_ (.nil ?_)))⟩
  · exact List.suffix_refl _
  · exact List.suffix_refl _
  · exact List.suffix_refl _

/-! ## The woven script -/

section

variable {code main : Bytes} {c : Constructor} {registry : Template.Registry}

/-- The body of the constructor inside its wrapper. -/
def wrappedBody (cut : Cut code c) (main : Bytes) (registry : Template.Registry)
    (hooks : List Bytes) :
    List Traced :=
  insertion wrapperOpening ++ (hooked (hookOffsets code hooks) (c.opening + 1) cut.body ++
    (insertion (renderEnding (code.take c.closing) main registry) ++ insertion wrapperClosing))

/-- The layout, cut at the braces of the constructor. -/
theorem layout_eq (cut : Cut code c) (main : Bytes) (registry : Template.Registry)
    (hooks : List Bytes) :
    layout code main registry.entries hooks c =
      hooked (hookOffsets code hooks) 0 cut.front ++ (keptFrom c.opening [Ascii.openBrace] ++
        (wrappedBody cut main registry hooks ++ (keptFrom c.closing [Ascii.closeBrace] ++
          hooked (hookOffsets code hooks) (c.closing + 1) cut.back))) := by
  obtain ⟨hopening, hclosing⟩ := braces_not_mem_hookOffsets cut hooks
  simp only [layout_eq_wrapper, wrappedBody, take_opening cut, slice_body cut, drop_closing cut,
    hooked_append, renderEnding_eq, Traced.insertion_append, Nat.zero_add, ← cut.opening_eq, hooked,
    keptFrom, if_neg hopening, if_neg hclosing, List.append_assoc, List.nil_append,
    List.cons_append]

variable (cut : Cut code c) (hooks : List Bytes)
  (hslash : ∀ t ∈ solid (scan code), ¬t.isPunct Ascii.slash)
  (hparens : nesting Ascii.openParen Ascii.closeParen 0 cut.inner = some 0)
  (hmain : isPlainText main) (hregistry : PlainRegistry registry)

include hslash hparens hmain hregistry

/-- What stands between the braces of the wrapper closes all that it opens. -/
theorem carries_inside {ctx : Context} {flag : Bool}
    (halike : (c.bodyContext cut.before).SlashAlike ctx)
    (hbraces : ctx.braces = .code :: (c.bodyContext cut.before).braces)
    (hflags : ctx.parens = flag :: (c.bodyContext cut.before).parens) (n : Nat) (r : Bytes) :
    ∃ ts, Carries ctx n (hooked (hookOffsets code hooks) (c.opening + 1) cut.body ++
        insertion (renderEnding (code.take c.closing) main registry)) r ts cut.inner ∧
      (ctx.after ts).braces = ctx.braces ∧ (ctx.after ts).parens = ctx.parens ∧
      StaysOpen ctx.braces ctx ts ∧
      ((c.bodyContext cut.before).after cut.inner).braces = (c.bodyContext cut.before).braces ∧
      ((c.bodyContext cut.before).after cut.inner).parens = (c.bodyContext cut.before).parens := by
  let ending := renderEnding (code.take c.closing) main registry
  have hnext : Follows (Ascii.closeBrace :: cut.back) (Traced.text (insertion ending) ++ r) := by
    obtain ⟨b, rest, hending, hb⟩ := renderEnding_cons (code.take c.closing) main registry
    rw [Traced.text_insertion, show ending = b :: rest from hending]
    have hbrace : (Ascii.closeBrace :: cut.back).head? ≠ some Ascii.newline := by
      rw [List.head?_cons]
      decide
    rcases hb with rfl | rfl
    · exact follows_cons (by decide) (by decide) hbrace _
    · exact follows_cons (by decide) (by decide) hbrace _
  obtain ⟨ts, hts, hb, hp, hstays, hb₀, hp₀⟩ :=
    cut.carries_body hooks hslash hparens halike hbraces hflags hnext n
  obtain ⟨us, hus, hb', hp', hstays'⟩ := inert_renderEnding hmain hregistry (code.take c.closing) r
    (ctx.after ts) (n + (hooked (hookOffsets code hooks) (c.opening + 1) cut.body).length)
  rw [hb] at hb' hstays'
  rw [hp] at hp'
  refine ⟨ts ++ us, ?_, ?_, ?_, hstays.append hstays', hb₀, hp₀⟩
  · simpa using hts.trans (.insertion hus)
  · rw [Context.after_append, hb']
  · rw [Context.after_append, hp']

/-- The wrapped body reads as the body between two braces that match each other. -/
theorem carries_wrappedBody {ctx : Context} (halike : Alike (c.bodyContext cut.before) ctx)
    (n : Nat) (r : Bytes) :
    ∃ ts, Carries ctx n (wrappedBody cut main registry hooks) r ts cut.inner ∧
      (ctx.after ts).braces = ctx.braces ∧ (ctx.after ts).parens = ctx.parens ∧
      StaysOpen ctx.braces ctx ts ∧
      BracesMatch ctx ts (n + wrapperOpening.idxOf Ascii.openBrace)
        (n + (wrappedBody cut main registry hooks).length - wrapperClosing.length +
          wrapperClosing.idxOf Ascii.closeBrace) ∧
      ((c.bodyContext cut.before).after cut.inner).braces = (c.bodyContext cut.before).braces ∧
      ((c.bodyContext cut.before).after cut.inner).parens = (c.bodyContext cut.before).parens := by
  let inside := hooked (hookOffsets code hooks) (c.opening + 1) cut.body ++
    insertion (renderEnding (code.take c.closing) main registry)
  have hwrapped : wrappedBody cut main registry hooks =
      insertion wrapperOpening ++ (inside ++ insertion wrapperClosing) := by
    simp [wrappedBody, inside]
  obtain ⟨us, flag, hus, hb, hp, hstays⟩ := reads_wrapperOpening ctx n
    (Traced.text (inside ++ insertion wrapperClosing) ++ r)
  let brace : Token := ⟨.punct, n + wrapperOpening.idxOf Ascii.openBrace, [Ascii.openBrace]⟩
  have hbrace : ctx.after (us ++ [brace]) = (ctx.after us).advance brace := by simp
  have hbraces : ((ctx.after us).advance brace).braces = .code :: ctx.braces :=
    congrArg (List.cons Brace.code) hb
  have hflags : ((ctx.after us).advance brace).parens = flag :: ctx.parens := hp
  have hslashes : (c.bodyContext cut.before).SlashAlike ((ctx.after us).advance brace) :=
    ⟨rfl, fun h => by cases h⟩
  obtain ⟨vs, hvs, hb', hp', hstays', hb₀, hp₀⟩ :=
    carries_inside cut hooks hslash hparens hmain hregistry hslashes
      (by rw [hbraces, halike.braces]) (by rw [hflags, halike.parens])
      (n + (insertion wrapperOpening).length) (Traced.text (insertion wrapperClosing) ++ r)
  let outside := ((ctx.after us).advance brace).after vs
  let m := n + (insertion wrapperOpening).length + inside.length
  have htop : outside.braces = .code :: ctx.braces := hb'.trans hbraces
  obtain ⟨hb'', hp'', hstays''⟩ := after_closingTokens outside m
  have hclosing : Carries outside m (insertion wrapperClosing) r (closingTokens m) [] :=
    .insertion (reads_wrapperClosing (by rw [htop]; simp) m r)
  have hall : Carries ctx n (insertion wrapperOpening ++ (inside ++ insertion wrapperClosing)) r
      ((us ++ [brace]) ++ (vs ++ closingTokens m)) ([] ++ (cut.inner ++ [])) := by
    refine (Carries.insertion hus).trans ?_
    rw [hbrace]
    exact Carries.trans (by simpa using hvs) hclosing
  have hafter : ctx.after ((us ++ [brace]) ++ (vs ++ closingTokens m)) =
      outside.after (closingTokens m) := by
    rw [Context.after_append, hbrace, Context.after_append]
  rw [htop, List.tail_cons] at hb'' hstays''
  rw [show outside.parens = flag :: ctx.parens from hp'.trans hflags, List.tail_cons] at hp''
  rw [hbraces] at hstays'
  refine ⟨(us ++ [brace]) ++ (vs ++ closingTokens m), ?_, ?_, ?_, ?_, ?_, hb₀, hp₀⟩
  · rw [hwrapped]
    simpa using hall
  · rw [hafter, hb'']
  · rw [hafter, hp'']
  · rw [List.append_assoc]
    have hmono : ctx.braces <:+ .code :: ctx.braces := List.suffix_cons _ _
    exact hstays.append
      (.cons (hb.symm ▸ List.suffix_refl _) ((hstays'.mono hmono).append hstays''))
  · refine ⟨us, brace, vs, ⟨.punct, m + wrapperClosing.idxOf Ascii.closeBrace, [Ascii.closeBrace]⟩,
      (closingTokens m).tail, by simp [closingTokens], rfl, rfl, ?_, rfl, ?_, ?_⟩
    · rw [hwrapped]
      simp only [m, List.length_append, Traced.length_insertion]
      omega
    · rw [hb]
      exact hstays'
    · rw [hb]
      exact htop

/-- The tokens of a woven script, and the braces in it that match. -/
theorem carries_layout :
    ∃ ts, Carries {} 0 (layout code main registry.entries hooks c) [] ts (solid (scan code)) ∧
      ∃ i j, (layout code main registry.entries hooks c)[i]? =
        some (.kept c.opening Ascii.openBrace) ∧
        (layout code main registry.entries hooks c)[j]? = some (.kept c.closing Ascii.closeBrace) ∧
        BracesMatch {} ts i j ∧
        BracesMatch {} ts (i + 1 + wrapperOpening.idxOf Ascii.openBrace)
          (j - wrapperClosing.length + wrapperClosing.idxOf Ascii.closeBrace) := by
  let refs := hookOffsets code hooks
  let wrapped := wrappedBody cut main registry hooks
  let back := hooked refs (c.closing + 1) cut.back
  let i := 0 + (hooked refs 0 cut.front).length
  let opener : Token := ⟨.punct, i, [Ascii.openBrace]⟩
  let j := i + 1 + wrapped.length
  let closer : Token := ⟨.punct, j, [Ascii.closeBrace]⟩
  obtain ⟨ts₁, h₁, halike⟩ := cut.carries_front hooks hslash
    (r := Traced.text (keptFrom c.opening [Ascii.openBrace] ++ (wrapped ++
      (keptFrom c.closing [Ascii.closeBrace] ++ back))) ++ []) rfl
  have hopen : Alike (c.bodyContext cut.before) ((Context.after {} ts₁).advance opener) :=
    halike.advance c.openToken i
  obtain ⟨ts₂, h₂, hb, hp, hstays, hmatch, hb₀, hp₀⟩ := carries_wrappedBody cut hooks hslash hparens
    hmain hregistry hopen (i + 1)
      (Traced.text (keptFrom c.closing [Ascii.closeBrace] ++ back) ++ [])
  let inner := ((Context.after {} ts₁).advance opener).after ts₂
  have htop : inner.braces = .code :: (Context.after {} ts₁).braces := hb
  have hclose : Alike (((c.bodyContext cut.before).after cut.inner).advance c.closeToken)
      (inner.advance closer) :=
    ⟨⟨rfl, fun h => by cases h⟩, congrArg List.tail (hb₀.trans (hopen.braces.trans hb.symm)),
      hp₀.trans (hopen.parens.trans hp.symm)⟩
  obtain ⟨ts₃, h₃⟩ := cut.carries_back hooks hslash hclose (j + 1)
  have hopener : Carries (Context.after {} ts₁) i (keptFrom c.opening [Ascii.openBrace])
      (Traced.text (wrapped ++ (keptFrom c.closing [Ascii.closeBrace] ++ back)) ++ []) [opener]
      [c.openToken] := .token (by decide) (lexeme_of_mark (by decide) _) c.opening
  have hcloser : Carries inner j (keptFrom c.closing [Ascii.closeBrace]) (Traced.text back ++ [])
      [closer] [c.closeToken] :=
    .token (by decide) (lexeme_of_closeBrace (by rw [htop]; simp) _) c.closing
  have hall : Carries {} 0 (layout code main registry.entries hooks c) []
      (ts₁ ++ ([opener] ++ (ts₂ ++ ([closer] ++ ts₃))))
      (cut.before ++ ([c.openToken] ++ (cut.inner ++ ([c.closeToken] ++ cut.behind)))) := by
    rw [layout_eq cut]
    exact h₁.trans (hopener.trans (h₂.trans (hcloser.trans (by simpa using h₃))))
  have hat : ∀ (u v : List Traced) (b : Traced), (u ++ b :: v)[u.length]? = some b := by simp
  refine ⟨_, by simpa [cut.solid_eq] using hall, i, j, ?_, ?_, ?_, ?_⟩
  · rw [layout_eq cut, show i = (hooked refs 0 cut.front).length from Nat.zero_add _]
    exact hat _ _ _
  · have hj : j = (hooked refs 0 cut.front ++
        (keptFrom c.opening [Ascii.openBrace] ++ wrapped)).length := by
      simp only [j, i, List.length_append, Traced.length_keptFrom, List.length_singleton]
      omega
    have hassoc : layout code main registry.entries hooks c =
        (hooked refs 0 cut.front ++ (keptFrom c.opening [Ascii.openBrace] ++ wrapped)) ++
          .kept c.closing Ascii.closeBrace :: back := by
      rw [layout_eq cut, List.append_assoc, List.append_assoc]
      rfl
    rw [hassoc, hj]
    exact hat _ _ _
  · exact ⟨ts₁, opener, ts₂, closer, ts₃, by simp, rfl, rfl, rfl, rfl, hstays, htop⟩
  · have hctx :
        Context.after {} (ts₁ ++ [opener]) = (Context.after {} ts₁).advance opener := by simp
    rw [← hctx] at hmatch
    simpa using hmatch.append (ts₁ ++ [opener]) ([closer] ++ ts₃)

end

/-- Weaving keeps the lexical structure of the script. The tokens of the woven script that hold
bytes of the script are the tokens of the script, in order, and all others are inserted as a whole.
The braces of the constructor still match each other, and so do the braces of the wrapper. -/
theorem weave_keeps_tokens {code : Bytes} {c : Constructor} (main : Bytes)
    (registry : Template.Registry) (hooks : List Bytes) (hlocate : locate code = .ok c)
    (hslash : ∀ t ∈ scan code, ¬t.isPunct Ascii.slash)
    (hparens : nesting Ascii.openParen Ascii.closeParen 0 (c.bodyTokens code) = some 0)
    (hmain : isPlainText main) (hregistry : PlainRegistry registry) :
    ∃ woven tr, weave code main registry hooks = .ok woven ∧
      tr = layout code main registry.entries hooks c ∧ Traced.text tr = woven ∧
        Traced.code tr = code ∧
      (significant (scan woven)).filterMap (Token.origin? tr) = significant (scan code) ∧
      (∀ t ∈ significant (scan woven), t.origin? tr = none → t.span tr = insertion t.text) ∧
      ∃ i j, tr[i]? = some (.kept c.opening Ascii.openBrace) ∧
        tr[j]? = some (.kept c.closing Ascii.closeBrace) ∧
        BracesMatch {} (scan woven) i j ∧
        BracesMatch {} (scan woven) (i + 1 + wrapperOpening.idxOf Ascii.openBrace)
          (j - wrapperClosing.length + wrapperClosing.idxOf Ascii.closeBrace) := by
  obtain ⟨cut⟩ := locate_cut hlocate
  rw [cut.nesting_bodyTokens] at hparens
  obtain ⟨ts, hcarries, i, j, hi, hj, hmatch, hmatch'⟩ := carries_layout cut hooks
    (fun t ht => hslash t (List.mem_filter.mp ht).1) hparens hmain hregistry
  have hsolid : solid (scan (Traced.text (layout code main registry.entries hooks c))) = ts :=
    hcarries.reads.solid_eq
  have htext : ∀ t ∈ significant (scan code), t.text ≠ [] := by
    intro t ht
    rw [← significant_solid] at ht
    exact ((reads_solid {} 0 code).covers (List.mem_filter.mp ht).1).1
  have haligned := hcarries.aligned.significant
  rw [← hsolid, significant_solid, significant_solid] at haligned
  obtain ⟨horigins, hinserted⟩ := haligned.origins htext
  refine ⟨_, layout code main registry.entries hooks c,
    weave_of_cut hlocate cut main registry hooks, rfl,
    rfl, code_layout cut main registry.entries hooks, horigins, hinserted, i, j, hi, hj, ?_, ?_⟩
  · exact .of_solid (by rwa [hsolid])
  · exact .of_solid (by rwa [hsolid])

/-- A script whose body has a condition, a regular expression with a slash and a brace in it, a
template literal, and a hook inside and outside of it. -/
def sampleScript : Bytes :=
  Bytes.lit "export default function App(props, el) " ++ [Ascii.openBrace] ++
    Bytes.lit "if (go) /[/" ++
    [Ascii.closeBrace] ++ Bytes.lit "]/.test(`${go}`); " ++ [Ascii.closeBrace]

/-- The braces of the sample. -/
def sampleConstructor : Constructor := ⟨Bytes.lit "App", Bytes.lit "(props, el)", 39, 70⟩

theorem weave_keeps_tokens_sample :
    locate sampleScript = .ok sampleConstructor ∧
      nesting Ascii.openParen Ascii.closeParen 0 (sampleConstructor.bodyTokens sampleScript) =
        some 0 ∧
      ∃ woven tr,
        weave sampleScript (Bytes.lit "h('div', {}, Row())")
          (.set {} (Bytes.lit "Row") (Bytes.lit "h('//')"))
          [Bytes.lit "go"] = .ok woven ∧
        Traced.text tr = woven ∧ Traced.code tr = sampleScript ∧
        (significant (scan woven)).filterMap (Token.origin? tr) =
          significant (scan sampleScript) := by
  have hlocate : locate sampleScript = .ok sampleConstructor := by cbv
  have hparens : nesting Ascii.openParen Ascii.closeParen 0
      (sampleConstructor.bodyTokens sampleScript) = some 0 := by decide +kernel
  obtain ⟨woven, tr, hweave, _, htext, hcode, htokens, _⟩ := weave_keeps_tokens
    (Bytes.lit "h('div', {}, Row())") (.set {} (Bytes.lit "Row") (Bytes.lit "h('//')"))
    [Bytes.lit "go"] hlocate
    (by decide +kernel) hparens (by decide +kernel) ⟨by decide +kernel, by decide +kernel⟩
  exact ⟨hlocate, hparens, woven, tr, hweave, htext, hcode, htokens⟩

end ComponentCompiler.Component
