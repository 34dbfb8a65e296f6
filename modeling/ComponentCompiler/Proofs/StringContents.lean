import ComponentCompiler.Proofs.Alignment
import ComponentCompiler.Proofs.Partition
import ComponentCompiler.Proofs.Quoting
import Mathlib

/-!
# The contents of strings

A string of a script may be exchanged for any other string without a change to the rest of the
script. The tokens in front of it end where they did, since every string begins with a quote
(`Scans.exchange`). Behind it the scanner stands in a context that answers all its questions as
before, since no question is about the text of a string (`Scans.relocate`). The constructor is then
found at the same tokens.
-/

namespace ComponentCompiler.Script

/-! ## In front of the string -/

/-- `r'` may stand in the place of `r` behind tokens of any class, white space included. -/
structure FollowsAny (r r' : Bytes) : Prop extends Follows r r' where
  space : ∀ b, r'.head? = some b → isSpaceByte b → ∃ a, r.head? = some a ∧ isSpaceByte a
  ends : r = [] → r' = []

theorem FollowsAny.append {r r' : Bytes} (h : FollowsAny r r') (x : Bytes) :
    FollowsAny (x ++ r) (x ++ r') := by
  cases x with
  | nil => exact h
  | cons b x => exact ⟨.of_head rfl, fun c hc hs => ⟨c, hc, hs⟩, by simp⟩

/-- One string may follow where another one does. -/
theorem followsAny_of_quote {b : UInt8} (hb : b = Ascii.quote ∨ b = Ascii.apostrophe)
    (r r' : Bytes) : FollowsAny (b :: r) (Ascii.quote :: r') where
  ident a ha hident := by
    obtain rfl : Ascii.quote = a := Option.some.inj ha
    exact absurd hident (by decide)
  dot h := absurd (Option.some.inj h) (by decide)
  newline h := by
    obtain rfl : b = Ascii.newline := Option.some.inj h
    exact absurd hb (by decide)
  space a ha hspace := by
    obtain rfl : Ascii.quote = a := Option.some.inj ha
    exact absurd hspace (by decide)
  ends h := by cases h

/-- The text behind a stretch may be exchanged, unless the stretch holds a slash that might begin a
regular expression with it. -/
theorem Scans.exchange {ctx : Context} {n : Nat} {x r r' : Bytes} {ts : List Token}
    (h : Scans ctx n x r ts) (hslash : ∀ t ∈ ts, ¬t.isPunct Ascii.slash) (hnext : FollowsAny r r') :
    Scans ctx n x r' ts := by
  induction h with
  | nil ctx n r => exact .nil _ _ _
  | @cons ctx n b tl x r k ts hlex h ih =>
      refine .cons ?_ (ih (fun t ht => hslash t (List.mem_cons_of_mem _ ht)) hnext)
      have hrest := hnext.append x
      by_cases hk : k = .space
      · subst hk
        have hlen : ((tl ++ (x ++ r)).takeWhile isSpaceByte).length = tl.length :=
          length_run_of_lexeme hlex (.inl rfl)
        have hb : isSpaceByte b := isSpaceByte_of_lexeme (by rw [hlex])
        rw [lexeme, if_pos hb, takeWhile_stable hlen hrest.space]
      · refine lexeme_stable hlex hk ?_ (fun _ => rfl) (fun _ => Iff.rfl) hrest.toFollows
          fun hr => .inl (hrest.ends hr)
        rintro ⟨rfl, rfl⟩
        obtain rfl : tl = [] := List.length_eq_zero_iff.mp (eq_zero_of_lexeme_punct hlex)
        exact hslash _ List.mem_cons_self rfl

/-! ## Behind the string -/

namespace Context

/-- Two contexts that agree in all that is asked of a context. -/
structure Agrees (ctx ctx' : Context) : Prop where
  braces : ctx.braces = ctx'.braces
  parens : ctx.parens = ctx'.parens
  condition : ctx.afterCondition = ctx'.afterCondition
  regex : ctx.allowsRegex = ctx'.allowsRegex
  control : ctx.atControl = ctx'.atControl

theorem Agrees.refl (ctx : Context) : Agrees ctx ctx := ⟨rfl, rfl, rfl, rfl, rfl⟩

theorem Agrees.lexeme_eq {ctx ctx' : Context} (h : Agrees ctx ctx') (c : UInt8) (rest : Bytes) :
    lexeme ctx c rest = lexeme ctx' c rest := by
  unfold lexeme
  rw [h.braces, h.regex]

/-- Contexts go on agreeing over tokens of one class and one text, and over any two strings. -/
theorem Agrees.advance {ctx ctx' : Context} (h : Agrees ctx ctx') {t u : Token}
    (hkind : u.kind = t.kind) (htext : t.kind ≠ .string → u.text = t.text) :
    Agrees (ctx.advance t) (ctx'.advance u) := by
  cases hs : t.isSignificant with
  | false =>
      have hs' : u.isSignificant = false := by rwa [Token.isSignificant, hkind]
      rwa [advance_of_not_significant hs, advance_of_not_significant hs']
  | true =>
      have hs' : u.isSignificant = true := by rwa [Token.isSignificant, hkind]
      by_cases hk : t.kind = .string
      · -- a string is neither punctuation nor a name, whatever its text
        rw [hk] at hkind
        have hident : (Kind.string == Kind.ident) = false := rfl
        constructor
        all_goals
          simp [Context.advance, bracesAfter, Token.isPunct, allowsRegex, atControl, hk, hkind, hs,
            hs', hident, h.braces, h.parens, h.condition]
      · have hpunct : ∀ b, u.isPunct b = t.isPunct b := by
          intro b
          rw [Token.isPunct, hkind, htext hk, Token.isPunct]
        refine ⟨?_, ?_, ?_, ?_, ?_⟩
        · simp only [Context.advance, bracesAfter, hkind, htext hk, h.braces]
        · simp only [Context.advance, hpunct, h.parens, h.control]
        · simp only [Context.advance, hpunct, h.parens, h.condition]
        · simp only [allowsRegex, Context.advance, hpunct, hkind, htext hk, hs, hs', if_true,
            h.parens, h.condition]
        · simp only [atControl, Context.advance, hkind, htext hk, hs, hs', if_true]

end Context

/-- A stretch is read alike in contexts that agree, wherever it stands. -/
theorem Scans.relocate {ctx ctx' : Context} {n : Nat} {x r : Bytes} {ts : List Token}
    (h : Scans ctx n x r ts) (hctx : ctx.Agrees ctx') (n' : Nat) :
    Scans ctx' n' x r (ts.map fun t => t.moveTo (t.start - n + n')) := by
  induction h generalizing ctx' n' with
  | nil ctx n r => exact .nil _ _ _
  | @cons ctx n b tl x r k ts hlex h ih =>
      have hrec := ih (hctx.advance (u := ⟨k, n', b :: tl⟩) rfl fun _ => rfl) (n' + (tl.length + 1))
      have htail :
          (ts.map fun t => t.moveTo (t.start - (n + (tl.length + 1)) + (n' + (tl.length + 1)))) =
          ts.map fun t => t.moveTo (t.start - n + n') := by
        refine List.map_congr_left fun t ht => ?_
        have hle := h.le_start ht
        rw [show t.start - (n + (tl.length + 1)) + (n' + (tl.length + 1)) =
          t.start - n + n' by omega]
      rw [htail] at hrec
      rw [List.map_cons, Token.moveTo, Nat.sub_self, Nat.zero_add]
      exact .cons (by rwa [← hctx.lexeme_eq]) hrec

/-! ## A token replaced -/

/-- The text `text` in the place of the token `t` of a script. -/
def replaced (code : Bytes) (t : Token) (text : Bytes) : Bytes :=
  code.take t.start ++ (text ++ code.drop t.stop)

/-- Where an offset of the script goes when the text `text` takes the place of the token `t`. -/
def Token.shift (t : Token) (text : Bytes) (n : Nat) : Nat :=
  if n ≤ t.start then n else n - t.text.length + text.length

/-- What becomes of the token `u` when the text `text` takes the place of the token `t`. -/
def Token.replace (t : Token) (text : Bytes) (u : Token) : Token :=
  if u = t then ⟨t.kind, t.start, text⟩ else u.moveTo (t.shift text u.start)

theorem replaced_append {t : Token} {y : Bytes} (h : t.start = y.length) (z text : Bytes) :
    replaced (y ++ (t.text ++ z)) t text = y ++ (text ++ z) := by
  rw [replaced, Token.stop, h, List.take_left, ← List.drop_drop, List.drop_left, List.drop_left]

theorem Token.shift_of_le {t : Token} {n : Nat} (h : n ≤ t.start) (text : Bytes) :
    t.shift text n = n := if_pos h

theorem Token.shift_of_lt {t : Token} {n : Nat} (h : t.start < n) (text : Bytes) :
    t.shift text n = n - t.text.length + text.length := if_neg (Nat.not_le.mpr h)

/-- The tokens of a script with one of its strings replaced. -/
theorem scan_replaced {code : Bytes} {t : Token} {before behind : List Token}
    (hscan : scan code = before ++ t :: behind) (hkind : t.kind = .string)
    (hslash : ∀ u ∈ before, ¬u.isPunct Ascii.slash) (s : Bytes) :
    scan (replaced code t (quote s)) = before ++ ⟨.string, t.start, quote s⟩ ::
      behind.map fun u => u.moveTo (t.shift (quote s) u.start) := by
  have hscans := scans_scan code
  rw [hscan] at hscans
  obtain ⟨y, b, tl, z, htext, rfl, hstart, hfront, hlex, hback⟩ := hscans.split
  obtain ⟨tl', hquote, hclosed⟩ := exists_quote_eq s
  rw [Nat.zero_add] at hstart
  rw [hkind] at hlex
  rw [List.append_nil, htext] at hfront
  have hfront' : Scans {} 0 y (quote s ++ (z ++ [])) before := by
    rw [hquote]
    exact hfront.exchange hslash (followsAny_of_quote (quote_of_lexeme hlex) _ _)
  have hstring : lexeme (Context.after {} before) Ascii.quote (tl' ++ (z ++ [])) =
      (.string, tl'.length) := by
    rw [lexeme_of_quote (.inl rfl), stringRest_of_closed (by decide) hclosed]
  have hback' := hback.relocate ((Context.Agrees.refl _).advance (t := t)
    (u := ⟨.string, y.length, Ascii.quote :: tl'⟩) hkind.symm fun h => absurd hkind h)
    (y.length + (tl'.length + 1))
  have hwhole : Scans {} 0 (y ++ (quote s ++ z)) [] _ :=
    Scans.trans (by simpa using hfront') (by
      rw [hquote, Nat.zero_add]
      exact .cons hstring hback')
  rw [replaced_append hstart, scan, hwhole.scanFrom_eq, hstart]
  simp only [hquote]
  congr 2
  refine List.map_congr_left fun u hu => ?_
  have hle := hback.le_start hu
  rw [Token.stop, hstart, htext, List.length_cons] at hle
  rw [Token.shift_of_lt (by omega), Token.stop, hstart, htext, List.length_cons, List.length_cons,
    show u.start - (y.length + (tl.length + 1)) + (y.length + (tl'.length + 1)) =
      u.start - (tl.length + 1) + (tl'.length + 1) by omega]

/-! ## The constructor of a script with a string replaced -/

/-- Whether a text begins as a string does. -/
def beginsString (x : Bytes) : Bool :=
  x.head? == some Ascii.quote || x.head? == some Ascii.apostrophe

theorem beginsString_of_lexeme {ctx : Context} {b : UInt8} {rest : Bytes} {m : Nat}
    (h : lexeme ctx b rest = (.string, m)) (tl : Bytes) : beginsString (b :: tl) := by
  rcases quote_of_lexeme h with rfl | rfl
  · rfl
  · rfl

theorem beginsString_quote (s : Bytes) : beginsString (quote s) := by
  obtain ⟨tl, hquote, _⟩ := exists_quote_eq s
  rw [hquote]
  rfl

/-- A constructor whose offsets have moved. -/
def Constructor.relocate (move : Nat → Nat) (c : Constructor) : Constructor :=
  { c with opening := move c.opening, closing := move c.closing }

/-- A fault whose offset has moved. -/
def ConstructorFault.relocate (move : Nat → Nat) : ConstructorFault → ConstructorFault
  | absent => absent
  | unclosed name params opening => unclosed name params (move opening)

/-- A header with the tokens of the script replaced. The last token of the parameter list is a
single byte, which may stand right in front of the replaced token. -/
def Header.replace (t : Token) (text : Bytes) (h : Header) : Header :=
  ⟨h.name, t.shift text h.paramsStart, t.shift text (h.paramsStop - 1) + 1, t.replace text h.brace,
    h.body.map (t.replace text)⟩

namespace Token

variable {t : Token} {text : Bytes}

@[simp] theorem replace_kind (t : Token) (text : Bytes) (u : Token) :
    (t.replace text u).kind = u.kind := by
  rw [replace]
  split
  · rename_i h
    rw [h]
  · rfl

@[simp] theorem replace_start (t : Token) (text : Bytes) (u : Token) :
    (t.replace text u).start = t.shift text u.start := by
  rw [replace]
  split
  · rename_i h
    rw [h, shift_of_le (Nat.le_refl _)]
  · rfl

theorem replace_text {u : Token} (h : u ≠ t) (text : Bytes) : (t.replace text u).text = u.text := by
  rw [replace, if_neg h]
  rfl

theorem replace_text_of_kind {u : Token} (h : u.kind ≠ t.kind) (text : Bytes) :
    (t.replace text u).text = u.text := replace_text (fun heq => h (by rw [heq])) text

@[simp] theorem replace_isSignificant (t : Token) (text : Bytes) (u : Token) :
    (t.replace text u).isSignificant = u.isSignificant := by
  rw [isSignificant, replace_kind, isSignificant]

/-- Whether a token has a class and a text is not changed, unless the class is that of strings. -/
theorem replace_beq (h : t.kind = .string) (text : Bytes) (u : Token) {k : Kind} (hk : k ≠ .string)
    (word : Bytes) : ((t.replace text u).kind == k && (t.replace text u).text == word) =
      (u.kind == k && u.text == word) := by
  rw [replace_kind]
  by_cases hu : u.kind = k
  · rw [replace_text_of_kind (by rwa [hu, h])]
  · rw [beq_eq_false_iff_ne.mpr hu, Bool.false_and, Bool.false_and]

theorem replace_isPunct (h : t.kind = .string) (text : Bytes) (u : Token) (b : UInt8) :
    (t.replace text u).isPunct b = u.isPunct b := replace_beq h text u (by decide) [b]

theorem replace_isIdent (h : t.kind = .string) (text : Bytes) (u : Token) (name : Bytes) :
    (t.replace text u).isIdent name = u.isIdent name := replace_beq h text u (by decide) name

/-- A string is never written like a word of code. -/
theorem replace_text_beq (ht : beginsString t.text) (htext : beginsString text) (u : Token)
    {word : Bytes} (hword : beginsString word = false) :
    ((t.replace text u).text == word) = (u.text == word) := by
  have hne : ∀ x, beginsString x → (x == word) = false := by
    intro x hx
    rw [beq_eq_false_iff_ne]
    rintro rfl
    rw [hx] at hword
    cases hword
  by_cases hu : u = t
  · rw [replace, if_pos hu, hu, hne text htext, hne t.text ht]
  · rw [replace_text hu]

end Token

section

variable {t : Token} {text : Bytes}

theorem significant_replace (t : Token) (text : Bytes) (ts : List Token) :
    significant (ts.map (t.replace text)) = (significant ts).map (t.replace text) := by
  rw [significant, List.filter_map, significant]
  congr 2
  funext u
  exact Token.replace_isSignificant t text u

theorem skipStar_replace (h : t.kind = .string) (text : Bytes) (ts : List Token) :
    skipStar (ts.map (t.replace text)) = (skipStar ts).map (t.replace text) := by
  cases ts with
  | nil => rfl
  | cons u ts =>
      simp only [List.map_cons, skipStar, Token.replace_isPunct h]
      split <;> rfl

theorem takeName_replace (h : t.kind = .string) (text : Bytes) (ts : List Token) :
    takeName (ts.map (t.replace text)) =
      ((takeName ts).1, (takeName ts).2.map (t.replace text)) := by
  cases ts with
  | nil => rfl
  | cons u ts =>
      simp only [List.map_cons, takeName, Token.replace_kind]
      split
      · rename_i hk
        rw [Token.replace_text_of_kind (by simp [h, hk])]
      · rfl

theorem header?_replace (h : t.kind = .string) (ht : beginsString t.text)
    (htext : beginsString text) (ts : List Token) :
    header? (ts.map (t.replace text)) = (header? ts).map (Header.replace t text) := by
  unfold header?
  rw [skipStar_replace h, takeName_replace h]
  obtain ⟨name, rest⟩ := takeName (skipStar ts)
  rcases rest with _ | ⟨lparen, _ | ⟨props, _ | ⟨comma, _ | ⟨el, _ | ⟨rparen, _ | ⟨brace, body⟩⟩⟩⟩⟩⟩
  case cons.cons.cons.cons.cons.cons =>
    simp only [List.map_cons, Token.replace_isPunct h,
      Token.replace_text_beq ht htext _ (show beginsString (Bytes.lit "props") = false by decide),
      Token.replace_text_beq ht htext _ (show beginsString (Bytes.lit ",") = false by decide),
      Token.replace_text_beq ht htext _ (show beginsString (Bytes.lit "el") = false by decide)]
    split
    · rename_i hcond
      simp only [Bool.and_eq_true] at hcond
      obtain ⟨hkind, hone⟩ := Token.isPunct_iff.mp hcond.1.2
      simp only [Option.map_some, Header.replace, Token.stop, Token.replace_start,
        Token.replace_text_of_kind (show rparen.kind ≠ t.kind by simp [h, hkind]), hone,
        List.length_singleton, Nat.add_sub_cancel]
    · rfl
  all_goals rfl

theorem firstHeader?_replace (h : t.kind = .string) (ht : beginsString t.text)
    (htext : beginsString text) (ts : List Token) :
    firstHeader? (ts.map (t.replace text)) = (firstHeader? ts).map (Header.replace t text) := by
  induction ts with
  | nil => rfl
  | cons u ts ih =>
      simp only [List.map_cons, firstHeader?, Token.replace_isIdent h, header?_replace h ht htext,
        ih]
      split
      · cases header? ts <;> rfl
      · rfl

theorem closingBrace?_replace (h : t.kind = .string) (text : Bytes) (depth : Nat)
    (ts : List Token) :
    closingBrace? depth (ts.map (t.replace text)) =
      (closingBrace? depth ts).map (t.replace text) := by
  induction ts generalizing depth with
  | nil => rfl
  | cons u ts ih =>
      rw [List.map_cons, closingBrace?.eq_def, closingBrace?.eq_def depth (u :: ts)]
      simp only [Token.replace_isPunct h, ih]
      split
      · rfl
      · split
        · cases depth <;> rfl
        · rfl

/-- A string does not stand among the parameters of a constructor. -/
theorem FirstHeader.string_outside {ts : List Token} {h : Header} (hfirst : FirstHeader ts h)
    (hpair : ts.Pairwise fun a b => a.stop ≤ b.start) (hmem : t ∈ ts) (hkind : t.kind = .string)
    (ht : beginsString t.text) :
    h.paramsStart < h.paramsStop ∧ (h.paramsStop ≤ t.start ∨ t.stop ≤ h.paramsStart) := by
  obtain ⟨pre, rest, rfl,
    ⟨keyword, star, name, lparen, props, comma, el, rparen, htokens, _, _, _, _,
    hlparen, hprops, hcomma, hel, hrparen, _, hstart, hstop⟩, _⟩ := hfirst
  have hne : ∀ {word}, beginsString word = false → t.text ≠ word := by
    rintro word hword rfl
    rw [ht] at hword
    cases hword
  have hpunct : ∀ b, ¬t.isPunct b := by simp [Token.isPunct, hkind]
  have hgroup : pre ++ rest = (pre ++ keyword :: (star.toList ++ name.toList)) ++
      ([lparen, props, comma, el, rparen] ++ h.brace :: h.body) := by
    rw [htokens]
    simp
  rw [hgroup] at hpair hmem
  obtain ⟨_, hparams, hbefore⟩ := List.pairwise_append.mp hpair
  obtain ⟨hinner, _, hbehind⟩ := List.pairwise_append.mp hparams
  have hlen : lparen.start < rparen.stop := by
    have hle : lparen.stop ≤ rparen.start := (List.pairwise_cons.mp hinner).1 rparen (by simp)
    obtain ⟨_, hone⟩ := Token.isPunct_iff.mp hlparen
    simp only [Token.stop, hone, List.length_singleton] at hle ⊢
    omega
  rw [hstart, hstop]
  refine ⟨hlen, ?_⟩
  rcases List.mem_append.mp hmem with hmem | hmem
  · exact .inr (hbefore t hmem lparen (by simp))
  · rcases List.mem_append.mp hmem with hmem | hmem
    · simp only [List.mem_cons, List.not_mem_nil, or_false] at hmem
      rcases hmem with rfl | rfl | rfl | rfl | rfl
      · exact absurd hlparen (hpunct _)
      · exact absurd hprops (hne (by decide))
      · exact absurd hcomma (hne (by decide))
      · exact absurd hel (hne (by decide))
      · exact absurd hrparen (hpunct _)
    · exact .inl (hbehind rparen (by simp) t hmem)

end

theorem slice_of_le {y : Bytes} {a b : Nat} (hab : a ≤ b) (hb : b ≤ y.length) (r : Bytes) :
    slice (y ++ r) a b = slice y a b := by
  rw [slice, List.drop_append_of_le_length (by omega),
    List.take_append_of_le_length (by rw [List.length_drop]; omega), slice]

theorem slice_of_ge {y : Bytes} {a : Nat} (ha : y.length ≤ a) (r : Bytes) (b : Nat) :
    slice (y ++ r) a b = slice r (a - y.length) (b - y.length) := by
  rw [slice, List.drop_append, List.drop_eq_nil_of_le ha, List.nil_append, slice,
    show b - y.length - (a - y.length) = b - a by omega]

/-- What lies on one side of a token stays there when the token is replaced. -/
theorem slice_replaced {y z text : Bytes} {t : Token} (hstart : t.start = y.length)
    (hne : t.text ≠ []) {a b : Nat} (hab : a < b) (h : b ≤ t.start ∨ t.stop ≤ a) :
    slice (y ++ (text ++ z)) (t.shift text a) (t.shift text (b - 1) + 1) =
      slice (y ++ (t.text ++ z)) a b := by
  have hpos : 0 < t.text.length := List.length_pos_iff.mpr hne
  rcases h with hb | ha
  · rw [Token.shift_of_le (by omega), Token.shift_of_le (by omega), Nat.sub_add_cancel (by omega),
      slice_of_le (by omega) (by omega), slice_of_le (by omega) (by omega)]
  · rw [Token.stop, hstart] at ha
    rw [Token.shift_of_lt (by omega), Token.shift_of_lt (by omega), ← List.append_assoc,
      ← List.append_assoc, slice_of_ge (by rw [List.length_append]; omega),
      slice_of_ge (by rw [List.length_append]; omega)]
    simp only [List.length_append]
    congr 1
    · omega
    · omega

/-- The tokens around the replaced one differ from it by their offsets. -/
theorem map_replace {t : Token} {before behind : List Token}
    (h : (before ++ t :: behind).Pairwise fun a b => a.start < b.start) (text : Bytes) :
    (before ++ t :: behind).map (t.replace text) = before ++ ⟨t.kind, t.start, text⟩ ::
      behind.map fun u => u.moveTo (t.shift text u.start) := by
  obtain ⟨_, hright, hleft⟩ := List.pairwise_append.mp h
  have hbefore : before.map (t.replace text) = before := by
    refine (List.map_congr_left fun u hu => ?_).trans (List.map_id before)
    have hlt := hleft u hu t List.mem_cons_self
    rw [Token.replace, if_neg (by rintro rfl; omega), Token.shift_of_le (by omega)]
    rfl
  have hbehind :
      behind.map (t.replace text) = behind.map fun u => u.moveTo (t.shift text u.start) := by
    refine List.map_congr_left fun u hu => ?_
    have hlt := (List.pairwise_cons.mp hright).1 u hu
    rw [Token.replace, if_neg (by rintro rfl; omega)]
  rw [List.map_append, List.map_cons, hbefore, hbehind, Token.replace, if_pos rfl]

/-- The contents of a string do not matter to the rest of the script. When a string, closed or not,
that has no slash as punctuation in front of it gives place to the quotation of any text, all other
tokens keep their classes and texts in order. So the constructor is found just in case it was, with
its name and its parameters, and its braces have moved with the text around them. -/
theorem string_contents_opaque {code : Bytes} {t : Token} {before behind : List Token}
    (hscan : scan code = before ++ t :: behind) (hkind : t.kind = .string)
    (hslash : ∀ u ∈ before, ¬u.isPunct Ascii.slash) (s : Bytes) :
    scan (replaced code t (quote s)) = before ++ ⟨.string, t.start, quote s⟩ ::
      (behind.map fun u => u.moveTo (t.shift (quote s) u.start)) ∧
    locate (replaced code t (quote s)) =
      ((locate code).map (Constructor.relocate (t.shift (quote s)))).mapError
        (ConstructorFault.relocate (t.shift (quote s))) := by
  have htokens := scan_replaced hscan hkind hslash s
  refine ⟨htokens, ?_⟩
  have hscans := scans_scan code
  have hmap : scan (replaced code t (quote s)) = (scan code).map (t.replace (quote s)) := by
    rw [htokens, hscan, map_replace (by rw [← hscan]; exact hscans.pairwise_start), hkind]
  have hmem : t ∈ significant (scan code) := by
    simp [significant, hscan, Token.isSignificant, hkind]
  rw [hscan] at hscans
  obtain ⟨y, b, tl, z, htext, hcode, hstart, _, hlex, _⟩ := hscans.split
  have hbegins : beginsString t.text := by
    rw [htext]
    exact beginsString_of_lexeme (hkind ▸ hlex) tl
  rw [locate, hmap, significant_replace, firstHeader?_replace hkind hbegins (beginsString_quote s),
    locate]
  cases hfirst : firstHeader? (significant (scan code)) with
  | none => rfl
  | some h =>
      have hpair : (significant (scan code)).Pairwise fun a b => a.stop ≤ b.start :=
        (scans_scan code).pairwise_stop.sublist List.filter_sublist
      obtain ⟨hlt, hside⟩ :=
        (firstHeader?_eq_some_iff.mp hfirst).string_outside hpair hmem hkind hbegins
      have hparams : slice (replaced code t (quote s)) (t.shift (quote s) h.paramsStart)
          (t.shift (quote s) (h.paramsStop - 1) + 1) = slice code h.paramsStart h.paramsStop := by
        rw [hcode, replaced_append (by simpa using hstart)]
        exact slice_replaced (by simpa using hstart) (by simp [htext]) hlt hside
      simp only [Option.map_some, Header.replace, hparams, closingBrace?_replace hkind,
        Token.replace_start]
      cases closingBrace? 0 h.body with
      | none => rfl
      | some u => simp [Except.map, Except.mapError, Constructor.relocate]

/-- A script with a string that is not closed in front of its constructor. -/
def unclosedScript : Bytes :=
  Bytes.lit "let a = 'x" ++ [Ascii.openBrace, Ascii.newline] ++
    Bytes.lit "function C(props, el) " ++
    [Ascii.openBrace] ++ Bytes.lit " return '" ++ [Ascii.closeBrace] ++ Bytes.lit "' / 2 " ++
      [Ascii.closeBrace]

theorem string_contents_opaque_unclosed :
    (⟨.string, 8, Bytes.lit "'x" ++ [Ascii.openBrace]⟩ : Token) ∈ scan unclosedScript ∧
    quote (Ascii.quote :: Ascii.closeBrace :: Bytes.lit "/*\n") =
      Bytes.lit "\"\\\"" ++ [Ascii.closeBrace] ++ Bytes.lit "/*\\n\"" ∧
    locate unclosedScript = .ok ⟨Bytes.lit "C", Bytes.lit "(props, el)", 34, 51⟩ ∧
    locate (replaced unclosedScript ⟨.string, 8, Bytes.lit "'x" ++ [Ascii.openBrace]⟩
      (quote (Ascii.quote :: Ascii.closeBrace :: Bytes.lit "/*\n"))) =
      .ok ⟨Bytes.lit "C", Bytes.lit "(props, el)", 40, 57⟩ := by
  have hscan : scan unclosedScript = (scan unclosedScript).take 6 ++
      ⟨.string, 8, Bytes.lit "'x" ++ [Ascii.openBrace]⟩ :: (scan unclosedScript).drop 7 := by
        decide +kernel
  have hlocate : locate unclosedScript =
      .ok ⟨Bytes.lit "C", Bytes.lit "(props, el)", 34, 51⟩ := by cbv
  have hquote :
      quote (Ascii.quote :: Ascii.closeBrace :: Bytes.lit "/*\n") =
        Bytes.lit "\"\\\"" ++ [Ascii.closeBrace] ++ Bytes.lit "/*\\n\"" := by decide +kernel
  obtain ⟨_, hreplaced⟩ :=
    string_contents_opaque hscan rfl (by decide +kernel)
      (Ascii.quote :: Ascii.closeBrace :: Bytes.lit "/*\n")
  refine ⟨?_, hquote, hlocate, ?_⟩
  · rw [hscan]
    exact List.mem_append_right _ List.mem_cons_self
  · rw [hreplaced, hlocate, hquote]
    rfl

end ComponentCompiler.Script
