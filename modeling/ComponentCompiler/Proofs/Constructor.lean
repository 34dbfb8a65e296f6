import ComponentCompiler.Proofs.Reading
import ComponentCompiler.Script.Constructor

/-!
# Cutting a script at its constructor

Locating the constructor finds an opening brace and the brace that closes it. A `Cut` is the script
taken apart at these two bytes, each part together with the tokens that the scanner reads out of it.
-/

namespace ComponentCompiler.Script

theorem Token.isPunct_iff {t : Token} {b : UInt8} :
    t.isPunct b = true ↔ t.kind = .punct ∧ t.text = [b] := by
  simp [Token.isPunct]

theorem slice_append (s t r : Bytes) :
    slice (s ++ (t ++ r)) s.length (s.length + t.length) = t := by
  rw [slice, List.drop_left, Nat.add_sub_cancel_left, List.take_left]

/-! ## Nesting -/

/-- The number of openers still open after one token, when `depth` of them are open before it. There
is none when the token is a closer that closes nothing. -/
def nestingStep (opener closer : UInt8) (depth : Nat) (t : Token) : Option Nat :=
  if t.isPunct opener then some (depth + 1)
  else if t.isPunct closer then (if depth = 0 then none else some (depth - 1))
  else some depth

/-- The number of openers still open after a list of tokens. -/
def nesting (opener closer : UInt8) : Nat → List Token → Option Nat
  | depth, [] => some depth
  | depth, t :: ts => (nestingStep opener closer depth t).bind (nesting opener closer · ts)

theorem nestingStep_of_not_significant {t : Token} (h : t.isSignificant = false)
    (opener closer : UInt8) (depth : Nat) : nestingStep opener closer depth t = some depth := by
  have hp : ∀ b, ¬t.isPunct b = true := by
    intro b hb
    simp [Token.isSignificant, (Token.isPunct_iff.mp hb).1] at h
  rw [nestingStep, if_neg (hp opener), if_neg (hp closer)]

theorem nesting_significant (opener closer : UInt8) (depth : Nat) (ts : List Token) :
    nesting opener closer depth (significant ts) = nesting opener closer depth ts := by
  induction ts generalizing depth with
  | nil => rfl
  | cons t ts ih =>
      cases h : t.isSignificant with
      | true => simp [significant, h, nesting, ← ih]
      | false => simp [significant, h, nesting, ← ih, nestingStep_of_not_significant h]

/-- The closing brace that is found has properly nested braces in front of it. -/
theorem closingBrace?_eq_some {depth : Nat} {ts : List Token} {t : Token}
    (h : closingBrace? depth ts = some t) :
    ∃ inner rest, ts = inner ++ t :: rest ∧ t.isPunct Ascii.closeBrace ∧
      nesting Ascii.openBrace Ascii.closeBrace depth inner = some 0 := by
  induction ts generalizing depth with
  | nil => simp [closingBrace?] at h
  | cons u ts ih =>
      rw [closingBrace?.eq_def] at h
      simp only at h
      by_cases hopen : u.isPunct Ascii.openBrace = true
      · rw [if_pos hopen] at h
        obtain ⟨inner, rest, rfl, ht, hn⟩ := ih h
        exact ⟨u :: inner, rest, rfl, ht, by simp [nesting, nestingStep, hopen, hn]⟩
      · rw [if_neg hopen] at h
        by_cases hclose : u.isPunct Ascii.closeBrace = true
        · rw [if_pos hclose] at h
          cases depth with
          | zero =>
              obtain rfl : u = t := by simpa using h
              exact ⟨[], ts, rfl, hclose, rfl⟩
          | succ depth =>
              obtain ⟨inner, rest, rfl, ht, hn⟩ := ih h
              exact ⟨u :: inner, rest, rfl, ht, by simp [nesting, nestingStep, hopen, hclose, hn]⟩
        · rw [if_neg hclose] at h
          obtain ⟨inner, rest, rfl, ht, hn⟩ := ih h
          exact ⟨u :: inner, rest, rfl, ht, by simp [nesting, nestingStep, hopen, hclose, hn]⟩

/-! ## Headers -/

theorem skipStar_cases (ts : List Token) :
    ∃ star : Option Token, ts = star.toList ++ skipStar ts ∧ ∀ s ∈ star, s.isPunct Ascii.star := by
  cases ts with
  | nil => exact ⟨none, rfl, by simp⟩
  | cons t ts =>
      rw [skipStar]
      split
      · rename_i hstar
        exact ⟨some t, rfl, by simpa using hstar⟩
      · exact ⟨none, rfl, by simp⟩

theorem takeName_cases (ts : List Token) :
    ∃ name : Option Token, ts = name.toList ++ (takeName ts).2 ∧ (∀ u ∈ name, u.kind = .ident) ∧
      (takeName ts).1 = (name.map Token.text).getD [] := by
  cases ts with
  | nil => exact ⟨none, rfl, by simp, rfl⟩
  | cons t ts =>
      rw [takeName]
      split
      · rename_i hident
        exact ⟨some t, rfl, by simpa using hident, rfl⟩
      · exact ⟨none, rfl, by simp, rfl⟩

/-- The tokens `ts` begin with the header `h` of a constructor: the keyword, an optional star, an
optional name, the parameters in parentheses and the opening brace of the body. -/
inductive HeaderAt (ts : List Token) (h : Header) : Prop
  | intro (keyword : Token) (star name : Option Token) (lparen props comma el rparen : Token)
      (tokens : ts = keyword :: (star.toList ++ (name.toList ++
        lparen :: props :: comma :: el :: rparen :: h.brace :: h.body)))
      (keyword_eq : keyword.isIdent (Bytes.lit "function"))
      (star_eq : ∀ s ∈ star, s.isPunct Ascii.star)
      (name_kind : ∀ u ∈ name, u.kind = .ident)
      (name_eq : h.name = (name.map Token.text).getD [])
      (lparen_eq : lparen.isPunct Ascii.openParen)
      (props_eq : props.text = Bytes.lit "props")
      (comma_eq : comma.text = Bytes.lit ",")
      (el_eq : el.text = Bytes.lit "el")
      (rparen_eq : rparen.isPunct Ascii.closeParen)
      (brace_eq : h.brace.isPunct Ascii.openBrace)
      (start_eq : h.paramsStart = lparen.start)
      (stop_eq : h.paramsStop = rparen.stop)

/-- What follows the keyword is a header just in case it is found to be one. -/
theorem header?_eq_some_iff {t : Token} (ht : t.isIdent (Bytes.lit "function")) {ts : List Token}
    {h : Header} : header? ts = some h ↔ HeaderAt (t :: ts) h := by
  constructor
  · intro hh
    obtain ⟨star, hts, hstar⟩ := skipStar_cases ts
    obtain ⟨name, hskip, hkind, hname⟩ := takeName_cases (skipStar ts)
    unfold header? at hh
    simp only at hh
    split at hh
    · rename_i lparen props comma el rparen brace body hrest
      split at hh
      · rename_i hcond
        simp only [Bool.and_eq_true, beq_iff_eq] at hcond
        obtain ⟨⟨⟨⟨⟨hlparen, hprops⟩, hcomma⟩, hel⟩, hrparen⟩, hbrace⟩ := hcond
        obtain rfl := Option.some.inj hh
        refine .intro t star name lparen props comma el rparen ?_ ht hstar hkind hname
          hlparen hprops
          hcomma hel hrparen hbrace rfl rfl
        rw [hrest] at hskip
        rw [← hskip, ← hts]
      · cases hh
    · cases hh
  · rintro ⟨keyword, star, name, lparen, props, comma, el, rparen, tokens, _, hstar, hkind, hname,
      hlparen, hprops, hcomma, hel, hrparen, hbrace, hstart, hstop⟩
    obtain ⟨rfl, rfl⟩ := List.cons.inj tokens
    obtain ⟨hpunct, htext⟩ := Token.isPunct_iff.mp hlparen
    -- neither the name nor the parenthesis is taken for a star, nor the parenthesis for a name
    have hskip : ∀ us : List Token, skipStar (star.toList ++ (name.toList ++ lparen :: us)) =
        name.toList ++ lparen :: us := by
      intro us
      cases star with
      | some s => simp [skipStar, hstar s rfl]
      | none =>
          cases name with
          | some u => simp [skipStar, Token.isPunct, hkind u rfl]
          | none =>
              have hne : Ascii.openParen ≠ Ascii.star := by decide
              simp [skipStar, Token.isPunct, htext, hne]
    have htake : ∀ us : List Token,
        takeName (name.toList ++ lparen :: us) = (h.name, lparen :: us) := by
      intro us
      rw [hname]
      cases name with
      | some u => simp [takeName, hkind u rfl]
      | none => simp [takeName, hpunct]
    obtain ⟨_, start, stop, brace, body⟩ := h
    obtain rfl : start = lparen.start := hstart
    obtain rfl : stop = rparen.stop := hstop
    simp [header?, hskip, htake, hlparen, hprops, hcomma, hel, hrparen, hbrace]

/-- The first header among the tokens `ts` is `h`: none begins in front of it. -/
def FirstHeader (ts : List Token) (h : Header) : Prop :=
  ∃ pre rest, ts = pre ++ rest ∧ HeaderAt rest h ∧
    ∀ as bs, pre = as ++ bs → bs ≠ [] → ∀ h', ¬HeaderAt (bs ++ rest) h'

theorem firstHeader?_eq_some_iff {ts : List Token} {h : Header} :
    firstHeader? ts = some h ↔ FirstHeader ts h := by
  induction ts with
  | nil =>
      refine ⟨fun hh => by simp [firstHeader?] at hh, ?_⟩
      rintro ⟨pre, rest, hnil, ⟨_, _, _, _, _, _, _, _, htokens⟩, _⟩
      rw [htokens] at hnil
      simp at hnil
  | cons t ts ih =>
      -- a header that does not begin at the first token begins behind it
      have hlater :
          (∀ h', ¬HeaderAt (t :: ts) h') → (FirstHeader ts h ↔ FirstHeader (t :: ts) h) := by
        intro hnone
        constructor
        · rintro ⟨pre, rest, rfl, hat, hfirst⟩
          refine ⟨t :: pre, rest, rfl, hat, fun as bs hsplit hne h' => ?_⟩
          cases as with
          | nil =>
              obtain rfl : t :: pre = bs := hsplit
              exact hnone h'
          | cons a as => exact hfirst as bs (List.cons.inj hsplit).2 hne h'
        · rintro ⟨pre, rest, hts, hat, hfirst⟩
          cases pre with
          | nil =>
              obtain rfl : t :: ts = rest := hts
              exact absurd hat (hnone h)
          | cons a pre =>
              obtain ⟨rfl, rfl⟩ := List.cons.inj hts
              exact ⟨pre, rest, rfl, hat,
                fun as bs hsplit => hfirst (t :: as) bs (by rw [hsplit]; rfl)⟩
      rw [firstHeader?]
      split
      · rename_i hkeyword
        have hat : ∀ {h'}, header? ts = some h' ↔ HeaderAt (t :: ts) h' :=
          header?_eq_some_iff hkeyword
        split
        · rename_i h' hh'
          constructor
          · intro heq
            obtain rfl := Option.some.inj heq
            refine ⟨[], t :: ts, rfl, hat.mp hh', fun as bs hsplit hne => ?_⟩
            exact absurd (List.append_eq_nil_iff.mp hsplit.symm).2 hne
          · rintro ⟨pre, rest, hts, hrest, hfirst⟩
            cases pre with
            | nil =>
                obtain rfl : t :: ts = rest := hts
                rw [← hat.mpr hrest, hh']
            | cons a pre =>
                rw [hts] at hat
                exact absurd (hat.mp hh') (hfirst [] (a :: pre) rfl (by simp) h')
        · rename_i hnone
          rw [ih]
          exact hlater fun h' hat' => by
            rw [hat.mpr hat'] at hnone
            cases hnone
      · rename_i hkeyword
        rw [ih]
        refine hlater fun h' => ?_
        rintro ⟨keyword, _, _, _, _, _, _, _, htokens, hfunction⟩
        obtain rfl := (List.cons.inj htokens).1
        exact hkeyword hfunction

/-- A header ends with the opening brace of a body. -/
theorem firstHeader?_eq_some {ts : List Token} {h : Header} (hh : firstHeader? ts = some h) :
    h.brace :: h.body <:+ ts ∧ h.brace.isPunct Ascii.openBrace := by
  obtain ⟨pre, rest, rfl,
    ⟨keyword, star, name, lparen, props, comma, el, rparen, htokens, _, _, _, _, _,
    _, _, _, _, hbrace, _, _⟩, _⟩ := firstHeader?_eq_some_iff.mp hh
  refine ⟨?_, hbrace⟩
  rw [htokens]
  exact ⟨pre ++ keyword :: (star.toList ++ (name.toList ++ [lparen, props, comma, el, rparen])), by
    simp⟩

/-! ## The cut -/

/-- The token of the brace that opens the body. -/
def Constructor.openToken (c : Constructor) : Token := ⟨.punct, c.opening, [Ascii.openBrace]⟩

/-- The token of the brace that closes the body. -/
def Constructor.closeToken (c : Constructor) : Token := ⟨.punct, c.closing, [Ascii.closeBrace]⟩

@[simp] theorem Constructor.openToken_kind (c : Constructor) : c.openToken.kind = .punct := rfl

@[simp] theorem Constructor.closeToken_kind (c : Constructor) : c.closeToken.kind = .punct := rfl

@[simp] theorem Constructor.openToken_start (c : Constructor) : c.openToken.start = c.opening := rfl

@[simp] theorem Constructor.openToken_text (c : Constructor) :
    c.openToken.text = [Ascii.openBrace] := rfl

@[simp] theorem Constructor.closeToken_start (c : Constructor) :
    c.closeToken.start = c.closing := rfl

@[simp] theorem Constructor.closeToken_text (c : Constructor) :
    c.closeToken.text = [Ascii.closeBrace] := rfl

/-- The context in which the body begins, given the tokens in front of its opening brace. -/
def Constructor.bodyContext (c : Constructor) (before : List Token) : Context :=
  (Context.after {} before).advance c.openToken

/-- A script taken apart at the braces of its constructor's body: the code in front of the opening
brace, between the braces and behind the closing brace, with the tokens of each part. -/
structure Cut (code : Bytes) (c : Constructor) where
  front : Bytes
  body : Bytes
  back : Bytes
  before : List Token
  inner : List Token
  behind : List Token
  code_eq : code = front ++ Ascii.openBrace :: (body ++ Ascii.closeBrace :: back)
  opening_eq : c.opening = front.length
  closing_eq : c.closing = front.length + 1 + body.length
  solid_eq : solid (scan code) = before ++ c.openToken :: (inner ++ c.closeToken :: behind)
  reads_front : Reads {} 0 front (Ascii.openBrace :: (body ++ Ascii.closeBrace :: back)) before
  reads_open : Reads (Context.after {} before) c.opening [Ascii.openBrace]
    (body ++ Ascii.closeBrace :: back) [c.openToken]
  reads_body : Reads (c.bodyContext before) (c.opening + 1) body (Ascii.closeBrace :: back) inner
  reads_close : Reads ((c.bodyContext before).after inner) c.closing [Ascii.closeBrace] back
    [c.closeToken]
  reads_back :
    Reads (((c.bodyContext before).after inner).advance c.closeToken) (c.closing + 1) back
    [] behind
  nested : nesting Ascii.openBrace Ascii.closeBrace 0 inner = some 0

/-- A script whose constructor is located can be cut at it. -/
theorem locate_cut {code : Bytes} {c : Constructor} (h : locate code = .ok c) :
    Nonempty (Cut code c) := by
  unfold locate at h
  split at h
  · cases h
  · rename_i hd hhead
    obtain ⟨⟨pre, hpre⟩, hbrace⟩ := firstHeader?_eq_some hhead
    simp only at h
    split at h
    · rename_i t ht
      injection h with h
      obtain ⟨inner, rest, hinner, hclose, hnest⟩ := closingBrace?_eq_some ht
      -- the significant tokens split at both braces, and so do the tokens with comments
      have hsig : significant (solid (scan code)) = pre ++ hd.brace :: (inner ++ t :: rest) := by
        rw [significant_solid, ← hpre, hinner]
      obtain ⟨before, more, hall, _, hmore⟩ := exists_split_of_filter hsig
      obtain ⟨inner', behind, rfl, hinner', _⟩ := exists_split_of_filter hmore
      have hreads : Reads {} 0 code [] _ := reads_solid {} 0 code
      rw [show scanFrom {} 0 code = scan code from rfl, hall] at hreads
      obtain ⟨front, z, hcode, hopen, hfront, hbr, hz⟩ := hreads.split
      obtain ⟨body, back, rfl, hclosing, hbody, hcl, hback⟩ := hz.split
      obtain ⟨hbk, hbt⟩ := Token.isPunct_iff.mp hbrace
      obtain ⟨htk, htt⟩ := Token.isPunct_iff.mp hclose
      have hbeq : hd.brace = c.openToken := by
        rw [Constructor.openToken, ← hbk, ← hbt, ← h]
      have hteq : t = c.closeToken := by
        rw [Constructor.closeToken, ← htk, ← htt, ← h]
      have hopen' : c.opening = front.length := by
        rw [hbeq] at hopen
        simpa using hopen
      rw [hbeq] at hcode hfront hbr hbody hcl hback hclosing
      rw [hteq] at hcode hfront hbr hbody hcl hback hclosing
      have hclosing' : c.closing = front.length + 1 + body.length := by
        simp at hclosing
        omega
      exact ⟨{
        front, body, back
        code_eq := by simpa using hcode
        opening_eq := hopen'
        closing_eq := hclosing'
        before
        inner := inner'
        behind
        solid_eq := by rw [hall, hbeq, hteq]
        reads_front := by simpa using hfront
        reads_open := by simpa using hbr
        reads_body := by simpa [Constructor.bodyContext] using hbody
        reads_close := by simpa [Constructor.bodyContext] using hcl
        reads_back := by simpa [Constructor.bodyContext] using hback
        nested := by
          rw [← nesting_significant, show significant inner' = inner from hinner', hnest] }⟩
    · cases h

end ComponentCompiler.Script
