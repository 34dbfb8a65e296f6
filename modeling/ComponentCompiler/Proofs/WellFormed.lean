import ComponentCompiler.Proofs.PlainText
import ComponentCompiler.Proofs.Quoting
import Mathlib

/-!
# Locating the constructor of a well-formed script

A fragment is a sequence of items, each followed by a space: names, strings, comments, bracketed
fragments and template literals whose substitutions hold fragments again. Whatever stands around
it, a fragment is read to its end with the braces open that were open before it
(`Fragment.readsThrough`), so the constructor behind a fragment is found, and the brace that
closes its body.
-/

namespace ComponentCompiler.Script

/-! ## The grammar -/

/-- The text of a template literal between two substitutions. -/
structure IsChunk (text : Bytes) : Prop where
  backquote : Ascii.backquote ∉ text
  backslash : Ascii.backslash ∉ text
  hole : ¬[Ascii.dollar, Ascii.openBrace] <:+: text

mutual

/-- A piece of well-formed code. The empty item leaves only the space behind it. -/
inductive Item where
  | empty
  | name (text : Bytes) (h : isName text)
  | string (text : Bytes)
  | blockComment (text : Bytes) (h : ¬[Ascii.star, Ascii.slash] <:+: text)
  | lineComment (text : Bytes) (h : Ascii.newline ∉ text)
  | bracketed (pair : UInt8 × UInt8) (h : pair ∈ bracketPairs) (body : Fragment)
  | template (chunks : Chunks)

/-- A sequence of items. -/
inductive Fragment where
  | nil
  | cons (item : Item) (rest : Fragment)

/-- What follows the opening backquote of a template literal. -/
inductive Chunks where
  | last (text : Bytes) (h : IsChunk text)
  | hole (text : Bytes) (h : IsChunk text) (body : Fragment) (rest : Chunks)

end

mutual

/-- The bytes of an item. -/
def Item.text : Item → Bytes
  | .empty => []
  | .name text _ => text
  | .string text => quote text
  | .blockComment text _ => Ascii.slash :: Ascii.star :: (text ++ [Ascii.star, Ascii.slash])
  | .lineComment text _ => Ascii.slash :: Ascii.slash :: (text ++ [Ascii.newline])
  | .bracketed pair _ body => pair.1 :: (body.text ++ [pair.2])
  | .template chunks => Ascii.backquote :: chunks.text

/-- The bytes of a fragment, with a space behind each item. -/
def Fragment.text : Fragment → Bytes
  | .nil => []
  | .cons item rest => item.text ++ Ascii.space :: rest.text

/-- The bytes behind the opening backquote, up to the closing one. -/
def Chunks.text : Chunks → Bytes
  | .last text _ => text ++ [Ascii.backquote]
  | .hole text _ body rest =>
    text ++ Ascii.dollar :: Ascii.openBrace :: (body.text ++ Ascii.closeBrace :: rest.text)

end

mutual

/-- The names in an item at any depth, in order. -/
def Item.names : Item → List Bytes
  | .name text _ => [text]
  | .bracketed _ _ body => body.names
  | .template chunks => chunks.names
  | _ => []

/-- The names in a fragment at any depth, in order. -/
def Fragment.names : Fragment → List Bytes
  | .nil => []
  | .cons item rest => item.names ++ rest.names

/-- The names in the substitutions of a template literal, in order. -/
def Chunks.names : Chunks → List Bytes
  | .last _ _ => []
  | .hole _ _ body rest => body.names ++ rest.names

end

/-! ## Where comments and chunks end -/

theorem not_infix_tail {a b : UInt8} {c : UInt8} {s : Bytes} (h : ¬[a, b] <:+: c :: s) :
    ¬[a, b] <:+: s := fun hs => h (hs.trans (List.suffix_cons c s).isInfix)

/-- No pair of bytes that a text lacks begins in it, unless the text behind completes the pair. -/
theorem not_pair_append {a b c : UInt8} {s e : Bytes} (h : ¬[a, b] <:+: c :: s)
    (he : e.head? ≠ some b) : ¬(c = a ∧ (s ++ e).head? = some b) := by
  rintro ⟨rfl, hhead⟩
  cases s with
  | nil => exact he hhead
  | cons d s =>
      obtain rfl : d = b := by simpa using hhead
      exact h ⟨[], s, rfl⟩

theorem IsChunk.tail {c : UInt8} {s : Bytes} (h : IsChunk (c :: s)) : IsChunk s where
  backquote hs := h.backquote (List.mem_cons_of_mem c hs)
  backslash hs := h.backslash (List.mem_cons_of_mem c hs)
  hole := not_infix_tail h.hole

/-- A chunk is passed over on the way to what ends it. -/
theorem IsChunk.chunkRest_append {s e : Bytes} (h : IsChunk s)
    (he : e.head? ≠ some Ascii.openBrace) :
    chunkRest (s ++ e) = (s.length + (chunkRest e).1, (chunkRest e).2) := by
  induction s with
  | nil => simp
  | cons c s ih =>
      have hbackslash : c ≠ Ascii.backslash := fun hc => h.backslash (hc ▸ List.mem_cons_self)
      have hbackquote : c ≠ Ascii.backquote := fun hc => h.backquote (hc ▸ List.mem_cons_self)
      rw [List.cons_append, chunkRest_cons, if_neg hbackslash, if_neg hbackquote,
        if_neg (not_pair_append h.hole he), ih h.tail, List.length_cons]
      exact Prod.ext (by dsimp only; omega) rfl

theorem IsChunk.chunkRest_last {s : Bytes} (h : IsChunk s) (r : Bytes) :
    chunkRest (s ++ Ascii.backquote :: r) = (s.length + 1, false) := by
  have hend : chunkRest (Ascii.backquote :: r) = (1, false) := by
    rw [chunkRest_cons, if_neg (by decide), if_pos rfl]
  rw [h.chunkRest_append (by simp; decide), hend]

theorem IsChunk.chunkRest_hole {s : Bytes} (h : IsChunk s) (r : Bytes) :
    chunkRest (s ++ Ascii.dollar :: Ascii.openBrace :: r) = (s.length + 2, true) := by
  have hend : chunkRest (Ascii.dollar :: Ascii.openBrace :: r) = (2, true) := by
    rw [chunkRest_cons, if_neg (by decide), if_neg (by decide), if_pos ⟨rfl, rfl⟩]
  rw [h.chunkRest_append (by simp; decide), hend]

theorem blockCommentRest_append {s : Bytes} (h : ¬[Ascii.star, Ascii.slash] <:+: s) (r : Bytes) :
    blockCommentRest (s ++ Ascii.star :: Ascii.slash :: r) = s.length + 2 := by
  induction s with
  | nil => rw [List.nil_append, blockCommentRest_cons, if_pos ⟨rfl, rfl⟩, List.length_nil]
  | cons c s ih =>
      rw [List.cons_append, blockCommentRest_cons,
        if_neg (not_pair_append h (by simp; decide)), ih (not_infix_tail h), List.length_cons]
      omega

theorem lexeme_of_isName {ctx : Context} {c : UInt8} {tl : Bytes} (h : isName (c :: tl)) {b : UInt8}
    (hb : isIdentByte b = false) (r : Bytes) :
    lexeme ctx c (tl ++ b :: r) = (.ident, tl.length) := by
  have hc : isIdentByte c := isIdentByte_of_isName h c List.mem_cons_self
  have hd : Ascii.isDigit c = false := by
    simp only [isName, Bool.and_eq_true, Bool.not_eq_true'] at h
    exact h.1.2
  have htl : ∀ a ∈ tl, isIdentByte a :=
    fun a ha => isIdentByte_of_isName h a (List.mem_cons_of_mem c ha)
  rw [lexeme_of_ident hc hd, Bytes.takeWhile_append_cons htl hb]

/-! ## Reading a text through -/

/-- The identifiers among tokens. -/
def identifiers (ts : List Token) : List Bytes :=
  (ts.filter (·.kind == .ident)).map (·.text)

@[simp] theorem identifiers_append (ts us : List Token) :
    identifiers (ts ++ us) = identifiers ts ++ identifiers us := by
  simp [identifiers]

@[simp] theorem Token.isPunct_mk (n : Nat) (b c : UInt8) :
    (⟨.punct, n, [b]⟩ : Token).isPunct c = (b == c) := by
  simp [Token.isPunct]

theorem Context.braces_advance_openBrace (ctx : Context) (n : Nat) :
    (ctx.advance ⟨.punct, n, [Ascii.openBrace]⟩).braces = .code :: ctx.braces :=
  Context.bracesAfter_open (t := ⟨.punct, n, [Ascii.openBrace]⟩) (by simp) ctx

theorem Context.braces_advance_closeBrace (ctx : Context) (n : Nat) :
    (ctx.advance ⟨.punct, n, [Ascii.closeBrace]⟩).braces = ctx.braces.tail :=
  Context.bracesAfter_close (t := ⟨.punct, n, [Ascii.closeBrace]⟩) (by simp) ctx

theorem nesting_append (opener closer : UInt8) (depth : Nat) (ts us : List Token) :
    nesting opener closer depth (ts ++ us) =
      (nesting opener closer depth ts).bind (nesting opener closer · us) := by
  induction ts generalizing depth with
  | nil => rfl
  | cons t ts ih =>
      rw [List.cons_append, nesting, nesting, Option.bind_assoc]
      exact congrArg _ (funext fun d => ih d)

/-- The brace that closes is looked for behind tokens whose braces are nested. -/
theorem closingBrace?_append {depth d : Nat} {ts : List Token}
    (h : nesting Ascii.openBrace Ascii.closeBrace depth ts = some d) (us : List Token) :
    closingBrace? depth (ts ++ us) = closingBrace? d us := by
  induction ts generalizing depth with
  | nil =>
      obtain rfl : depth = d := Option.some.inj h
      rfl
  | cons t ts ih =>
      obtain ⟨e, hstep, hrest⟩ := Option.bind_eq_some_iff.mp h
      rw [List.cons_append, closingBrace?.eq_def, ← ih hrest]
      unfold nestingStep at hstep
      dsimp only
      by_cases hopen : t.isPunct Ascii.openBrace = true
      · rw [if_pos hopen] at hstep ⊢
        rw [Option.some.inj hstep]
      · rw [if_neg hopen] at hstep ⊢
        by_cases hclose : t.isPunct Ascii.closeBrace = true
        · rw [if_pos hclose] at hstep ⊢
          cases depth with
          | zero => cases hstep
          | succ depth => rw [← Option.some.inj hstep]; rfl
        · rw [if_neg hclose] at hstep ⊢
          rw [Option.some.inj hstep]

/-- Tokens that close every brace they open, and no other. -/
def Balanced (ts : List Token) : Prop :=
  ∀ depth, nesting Ascii.openBrace Ascii.closeBrace depth ts = some depth

namespace Balanced

variable {t : Token} {ts us : List Token}

theorem nil : Balanced [] := fun _ => rfl

theorem append (hts : Balanced ts) (hus : Balanced us) : Balanced (ts ++ us) := by
  intro depth
  rw [nesting_append, hts depth, Option.bind_some, hus depth]

theorem single (hopen : ¬t.isPunct Ascii.openBrace) (hclose : ¬t.isPunct Ascii.closeBrace) :
    Balanced [t] := by
  intro depth
  rw [nesting, nestingStep, if_neg hopen, if_neg hclose, Option.bind_some, nesting]

theorem braced (h : Balanced ts) (m n : Nat) :
    Balanced (⟨.punct, m, [Ascii.openBrace]⟩ :: (ts ++ [⟨.punct, n, [Ascii.closeBrace]⟩])) := by
  intro depth
  rw [nesting, nestingStep, if_pos (by simp), Option.bind_some, nesting_append, h (depth + 1)]
  rfl

end Balanced

/-- Tokens read in the context `ctx` that leave the braces `outer` open and hold the identifiers
`names`. -/
structure Passes (ctx : Context) (outer : List Brace) (names : List Bytes) (ts : List Token) :
    Prop where
  braces : (ctx.after ts).braces = outer
  balanced : Balanced ts
  names_eq : identifiers ts = names

theorem Passes.append {ctx : Context} {mid outer : List Brace} {xs ys : List Bytes}
    {ts us : List Token} (hts : Passes ctx mid xs ts) (hus : Passes (ctx.after ts) outer ys us) :
    Passes ctx outer (xs ++ ys) (ts ++ us) where
  braces := by rw [Context.after_append, hus.braces]
  balanced := hts.balanced.append hus.balanced
  names_eq := by rw [identifiers_append, hts.names_eq, hus.names_eq]

/-- A token other than a brace or a stretch of a template literal. -/
theorem Passes.single {ctx : Context} {t : Token} (hopen : ¬t.isPunct Ascii.openBrace)
    (hclose : ¬t.isPunct Ascii.closeBrace) (hkind : ∀ opens, t.kind ≠ .template opens) :
    Passes ctx ctx.braces (identifiers [t]) [t] where
  braces := Context.bracesAfter_other hopen hclose hkind ctx
  balanced := .single hopen hclose
  names_eq := rfl

/-- The text `x`, with `r` behind it, is read to its end in any context, holds the identifiers
`names`, closes every brace it opens and closes no other. -/
def ReadsThrough (x r : Bytes) (names : List Bytes) : Prop :=
  ∀ ctx n, ∃ ts, Reads ctx n x r ts ∧ Passes ctx ctx.braces names ts

namespace ReadsThrough

variable {x y r : Bytes} {xs ys : List Bytes}

theorem nil : ReadsThrough [] r [] := by
  intro ctx n
  exact ⟨[], .nil _ _ _, rfl, .nil, rfl⟩

theorem append (hx : ReadsThrough x (y ++ r) xs) (hy : ReadsThrough y r ys) :
    ReadsThrough (x ++ y) r (xs ++ ys) := by
  intro ctx n
  obtain ⟨ts, hts, hpass⟩ := hx ctx n
  obtain ⟨us, hus, hpass'⟩ := hy (ctx.after ts) (n + x.length)
  rw [hpass.braces] at hpass'
  exact ⟨ts ++ us, hts.trans hus, hpass.append hpass'⟩

theorem space {b : UInt8} (hb : isSpaceByte b) (h : ReadsThrough x r xs) :
    ReadsThrough (b :: x) r xs := by
  intro ctx n
  obtain ⟨ts, hts, hpass⟩ := h ctx (n + 1)
  exact ⟨ts, .space hb hts, hpass⟩

/-- A single token that is neither punctuation nor of a template literal. -/
theorem single {b : UInt8} {tl : Bytes} {k : Kind} (hspace : k ≠ .space) (hpunct : k ≠ .punct)
    (htemplate : ∀ opens, k ≠ .template opens)
    (hlex : ∀ ctx, lexeme ctx b (tl ++ r) = (k, tl.length)) :
    ReadsThrough (b :: tl) r (if k = .ident then [b :: tl] else []) := by
  intro ctx n
  have hp : ∀ c, ¬(⟨k, n, b :: tl⟩ : Token).isPunct c = true := fun c hc =>
    hpunct (Token.isPunct_iff.mp hc).1
  have hpass : Passes ctx ctx.braces _ _ := .single (hp _) (hp _) htemplate
  refine ⟨_, .single hspace (hlex ctx), ?_⟩
  by_cases hk : k = .ident
  · simpa [identifiers, hk] using hpass
  · simpa [identifiers, hk] using hpass

/-- Punctuation that is no brace. -/
theorem mark {b : UInt8} (hb : isMark b) (hopen : b ≠ Ascii.openBrace) : ReadsThrough [b] r [] := by
  intro ctx n
  have hclose : b ≠ Ascii.closeBrace := by
    rintro rfl
    exact absurd hb (by decide)
  have hpass : Passes ctx ctx.braces (identifiers [⟨.punct, n, [b]⟩]) [⟨.punct, n, [b]⟩] :=
    .single (by simpa using hopen) (by simpa using hclose) (by simp)
  exact ⟨_, .mark hb, hpass⟩

/-- Braces around a text. -/
theorem braced (h : ReadsThrough x (Ascii.closeBrace :: r) xs) :
    ReadsThrough (Ascii.openBrace :: (x ++ [Ascii.closeBrace])) r xs := by
  intro ctx n
  obtain ⟨ts, hts, hpass⟩ := h (ctx.advance ⟨.punct, n, [Ascii.openBrace]⟩) (n + 1)
  rw [Context.braces_advance_openBrace] at hpass
  have hclose : Reads ((ctx.advance ⟨.punct, n, [Ascii.openBrace]⟩).after ts) (n + 1 + x.length)
      [Ascii.closeBrace] r [⟨.punct, n + 1 + x.length, [Ascii.closeBrace]⟩] := by
    refine .single (by decide) (lexeme_of_closeBrace ?_ _)
    simp [hpass.braces]
  have hopen : Reads ctx n [Ascii.openBrace] ((x ++ [Ascii.closeBrace]) ++ r)
      [⟨.punct, n, [Ascii.openBrace]⟩] := .mark (by decide)
  refine ⟨_, hopen.trans (hts.trans hclose), ?_, hpass.balanced.braced _ _, ?_⟩
  · rw [List.singleton_append, Context.after_cons, Context.after_append, Context.after_cons,
      Context.after_nil, Context.braces_advance_closeBrace, hpass.braces, List.tail_cons]
  · rw [List.singleton_append, ← hpass.names_eq]
    simp [identifiers]

theorem bracketed {p : UInt8 × UInt8} (hp : p ∈ bracketPairs) (h : ReadsThrough x (p.2 :: r) xs) :
    ReadsThrough (p.1 :: (x ++ [p.2])) r xs := by
  have hmarks : ∀ {a b : UInt8}, isMark a → a ≠ Ascii.openBrace → isMark b → b ≠ Ascii.openBrace →
      ReadsThrough x (b :: r) xs → ReadsThrough (a :: (x ++ [b])) r xs := by
    intro a b ha ha' hb hb' hx
    have hall : ReadsThrough ([a] ++ (x ++ [b])) r ([] ++ (xs ++ [])) :=
      (mark ha ha').append (hx.append (mark hb hb'))
    rwa [List.append_nil, List.nil_append] at hall
  simp only [bracketPairs, List.mem_cons, List.not_mem_nil, or_false] at hp
  rcases hp with rfl | rfl | rfl
  · exact hmarks (by decide) (by decide) (by decide) (by decide) h
  · exact hmarks (by decide) (by decide) (by decide) (by decide) h
  · exact h.braced

theorem name (hx : isName x) {b : UInt8} (hb : isIdentByte b = false) :
    ReadsThrough x (b :: r) [x] := by
  cases x with
  | nil => cases hx
  | cons c tl =>
      exact single (k := .ident) (by decide) (by decide) (by simp) fun _ => lexeme_of_isName hx hb r

theorem string (text : Bytes) : ReadsThrough (quote text) r [] := by
  obtain ⟨tl, htl, hclosed⟩ := exists_quote_eq text
  rw [htl]
  refine single (k := .string) (by decide) (by decide) (by simp) ?_
  intro ctx
  rw [lexeme_of_quote (.inl rfl), stringRest_of_closed (by decide) hclosed]

theorem blockComment {text : Bytes} (h : ¬[Ascii.star, Ascii.slash] <:+: text) :
    ReadsThrough (Ascii.slash :: Ascii.star :: (text ++ [Ascii.star, Ascii.slash])) r [] := by
  refine single (k := .comment) (by decide) (by decide) (by simp) ?_
  intro ctx
  have hspace : isSpaceByte Ascii.slash = false := by decide
  have hstar : Ascii.star ≠ Ascii.slash := by decide
  have hrest := blockCommentRest_append h r
  simp [lexeme, hspace, hstar, hrest]
  omega

theorem lineComment {text : Bytes} (h : Ascii.newline ∉ text) :
    ReadsThrough (Ascii.slash :: Ascii.slash :: (text ++ [Ascii.newline])) r [] := by
  have hcomment : ReadsThrough (Ascii.slash :: Ascii.slash :: text) (Ascii.newline :: r) [] := by
    refine single (k := .comment) (by decide) (by decide) (by simp) ?_
    intro ctx
    have hspace : isSpaceByte Ascii.slash = false := by decide
    have hline : Ascii.newline ∉ Ascii.slash :: text :=
      List.not_mem_cons_of_ne_of_not_mem (by decide) h
    unfold lexeme
    rw [if_neg (by simp [hspace]), if_pos ⟨rfl, rfl⟩, Bytes.takeWhile_ne_append_cons hline]
  have hline : ReadsThrough [Ascii.newline] r [] := space (by decide) nil
  exact hcomment.append hline

end ReadsThrough

/-! ## Template literals -/

/-- The byte `b`, read in the context `ctx`, begins a stretch of a template literal that stands
inside the braces `outer`: it opens the literal or closes a substitution. -/
def BeginsChunk (ctx : Context) (b : UInt8) (outer : List Brace) : Prop :=
  (b = Ascii.backquote ∧ ctx.braces = outer) ∨
    (b = Ascii.closeBrace ∧ ctx.braces = .substitution :: outer)

namespace BeginsChunk

variable {ctx : Context} {b : UInt8} {outer : List Brace}

theorem lexeme_eq (h : BeginsChunk ctx b outer) (rest : Bytes) :
    lexeme ctx b rest = (.template (chunkRest rest).2, (chunkRest rest).1) := by
  rcases h with ⟨rfl, _⟩ | ⟨rfl, hbraces⟩
  · unfold lexeme
    rw [if_neg (by decide), if_neg fun hs => absurd hs.1 (by decide),
      if_neg fun hs => absurd hs.1 (by decide), if_neg (by decide), if_pos (.inl rfl)]
  · exact lexeme_of_substitution (by rw [hbraces]; rfl) rest

theorem passes (h : BeginsChunk ctx b outer) (n : Nat) (tl : Bytes) (opens : Bool) :
    Passes ctx (if opens then .substitution :: outer else outer) []
      [⟨.template opens, n, b :: tl⟩] where
  braces := by
    rcases h with ⟨rfl, hbraces⟩ | ⟨rfl, hbraces⟩
    · have hne : Ascii.backquote ≠ Ascii.closeBrace := by decide
      simp [Context.advance, Context.bracesAfter, hbraces, hne]
    · simp [Context.advance, Context.bracesAfter, hbraces]
  balanced := .single (by simp [Token.isPunct]) (by simp [Token.isPunct])
  names_eq := rfl

/-- The last stretch of a literal ends it. -/
theorem reads_last (h : BeginsChunk ctx b outer) {text : Bytes} (htext : IsChunk text) (n : Nat)
    (r : Bytes) :
    ∃ ts, Reads ctx n (b :: (text ++ [Ascii.backquote])) r ts ∧ Passes ctx outer [] ts := by
  refine ⟨_, .single (by decide) ?_, h.passes n _ false⟩
  rw [h.lexeme_eq, List.append_assoc, List.singleton_append, htext.chunkRest_last]
  simp

/-- A stretch in front of a substitution opens it. -/
theorem reads_hole (h : BeginsChunk ctx b outer) {text : Bytes} (htext : IsChunk text) (n : Nat)
    (r : Bytes) :
    ∃ ts, Reads ctx n (b :: (text ++ [Ascii.dollar, Ascii.openBrace])) r ts ∧
      Passes ctx (.substitution :: outer) [] ts := by
  refine ⟨_, .single (by decide) ?_, h.passes n _ true⟩
  rw [h.lexeme_eq, List.append_assoc, List.cons_append, List.singleton_append, htext.chunkRest_hole]
  simp

end BeginsChunk

/-! ## Fragments -/

mutual

theorem Item.readsThrough (item : Item) (r : Bytes) :
    ReadsThrough item.text (Ascii.space :: r) item.names := by
  match item with
  | .empty => exact .nil
  | .name text h => exact .name h (by decide)
  | .string text => exact .string text
  | .blockComment text h => exact .blockComment h
  | .lineComment text h => exact .lineComment h
  | .bracketed pair h body => exact .bracketed h (body.readsThrough _)
  | .template chunks =>
      intro ctx n
      exact chunks.readsThrough (.inl ⟨rfl, rfl⟩) n _

/-- A fragment is read to its end in any context, whatever stands behind it. -/
theorem Fragment.readsThrough (f : Fragment) (r : Bytes) : ReadsThrough f.text r f.names := by
  match f with
  | .nil => exact .nil
  | .cons item rest =>
      have hrest : ReadsThrough (Ascii.space :: rest.text) r rest.names :=
        .space (by decide) (rest.readsThrough r)
      exact (item.readsThrough (rest.text ++ r)).append hrest

/-- What is left of a template literal is read to its end and leaves open the braces around the
literal. -/
theorem Chunks.readsThrough {ctx : Context} {b : UInt8} {outer : List Brace} (chunks : Chunks)
    (hb : BeginsChunk ctx b outer) (n : Nat) (r : Bytes) :
    ∃ ts, Reads ctx n (b :: chunks.text) r ts ∧ Passes ctx outer chunks.names ts := by
  match chunks with
  | .last text h => exact hb.reads_last h n r
  | .hole text h body rest =>
      obtain ⟨ts, hts, hopen⟩ :=
        hb.reads_hole h n (body.text ++ (Ascii.closeBrace :: rest.text) ++ r)
      obtain ⟨us, hus, hbody⟩ :=
        body.readsThrough (Ascii.closeBrace :: rest.text ++ r) (ctx.after ts)
        (n + (b :: (text ++ [Ascii.dollar, Ascii.openBrace])).length)
      have hresume : BeginsChunk ((ctx.after ts).after us) Ascii.closeBrace outer :=
        .inr ⟨rfl, hbody.braces.trans hopen.braces⟩
      obtain ⟨vs, hvs, hrest⟩ := rest.readsThrough hresume
        (n + (b :: (text ++ [Ascii.dollar, Ascii.openBrace])).length + body.text.length) r
      have hall := hts.trans (hus.trans hvs)
      refine ⟨ts ++ (us ++ vs), ?_, hopen.append (hbody.append hrest)⟩
      simpa [Chunks.text] using hall

end

/-! ## The constructor behind a fragment -/

/-- The parameter list of a constructor. -/
def parameterList : Bytes := Bytes.lit "(props, el)"

/-- What stands in front of the body of the constructor `name`. -/
def signature (name : Bytes) : Bytes :=
  Bytes.lit "function " ++ name ++ parameterList ++ [Ascii.space]

/-- The tokens of a signature and its opening brace at offset `n`. -/
def signatureTokens (name : Bytes) (n : Nat) : List Token :=
  let p := n + 9 + name.length
  [⟨.ident, n, Bytes.lit "function"⟩, ⟨.ident, n + 9, name⟩, ⟨.punct, p, [Ascii.openParen]⟩,
    ⟨.ident, p + 1, Bytes.lit "props"⟩, ⟨.punct, p + 6, [Ascii.comma]⟩,
      ⟨.ident, p + 8, Bytes.lit "el"⟩,
    ⟨.punct, p + 10, [Ascii.closeParen]⟩, ⟨.punct, p + 12, [Ascii.openBrace]⟩]

namespace Reads

variable {ctx : Context} {n m : Nat} {x y r : Bytes} {ts : List Token}

theorem name_cons {b : UInt8} (hx : isName x) (hb : isIdentByte b = false) (hm : m = n + x.length)
    (h : Reads (ctx.advance ⟨.ident, n, x⟩) m (b :: y) r ts) :
    Reads ctx n (x ++ b :: y) r (⟨.ident, n, x⟩ :: ts) := by
  subst hm
  cases x with
  | nil => cases hx
  | cons c tl => exact .token (by decide) (lexeme_of_isName hx hb _) h

theorem mark_cons {b : UInt8} (hb : isMark b) (hm : m = n + 1)
    (h : Reads (ctx.advance ⟨.punct, n, [b]⟩) m y r ts) :
    Reads ctx n (b :: y) r (⟨.punct, n, [b]⟩ :: ts) := by
  subst hm
  exact (mark hb).trans h

end Reads

theorem signature_eq (name : Bytes) :
    signature name ++ [Ascii.openBrace] = Bytes.lit "function" ++ Ascii.space :: (name ++
      Ascii.openParen :: (Bytes.lit "props" ++ Ascii.comma :: Ascii.space :: (Bytes.lit "el" ++
        Ascii.closeParen :: Ascii.space :: [Ascii.openBrace]))) := by
  have hfunction : Bytes.lit "function " = Bytes.lit "function" ++ [Ascii.space] := by decide
  have hparams : parameterList = Ascii.openParen :: (Bytes.lit "props" ++
      Ascii.comma :: Ascii.space :: (Bytes.lit "el" ++ [Ascii.closeParen])) := by decide
  simp [signature, hfunction, hparams]

theorem reads_signature {name : Bytes} (hname : isName name) (ctx : Context) (n : Nat) (r : Bytes) :
    Reads ctx n (signature name ++ [Ascii.openBrace]) r (signatureTokens name n) := by
  rw [signature_eq]
  refine .name_cons (by decide) (by decide) rfl (.space (by decide) ?_)
  refine .name_cons hname (by decide) rfl (.mark_cons (by decide) rfl ?_)
  refine .name_cons (by decide) (by decide) rfl (.mark_cons (by decide) rfl (.space (by decide) ?_))
  refine .name_cons (by decide) (by decide) rfl (.mark_cons (by decide) rfl (.space (by decide) ?_))
  exact .mark_cons (by decide) rfl (.nil _ _ _)

theorem length_signature (name : Bytes) : (signature name).length = 21 + name.length := by
  have hfunction : (Bytes.lit "function ").length = 9 := by decide
  have hparams : parameterList.length = 11 := by decide
  simp [signature, hfunction, hparams]
  omega

/-- Tokens without the keyword are passed over. -/
theorem firstHeader?_append {ts : List Token} (h : Bytes.lit "function" ∉ identifiers ts)
    (us : List Token) : firstHeader? (ts ++ us) = firstHeader? us := by
  induction ts with
  | nil => rfl
  | cons t ts ih =>
      have hthis : ¬t.isIdent (Bytes.lit "function") = true := by
        intro ht
        simp only [Token.isIdent, Bool.and_eq_true, beq_iff_eq] at ht
        apply h
        simp [identifiers, ht.1, ht.2]
      have hrest : Bytes.lit "function" ∉ identifiers ts := by
        intro hts
        apply h
        rw [← List.singleton_append, identifiers_append]
        exact List.mem_append_right _ hts
      rw [List.cons_append, firstHeader?, if_neg hthis, ih hrest]

theorem firstHeader?_signatureTokens (name : Bytes) (n : Nat) (us : List Token) :
    firstHeader? (signatureTokens name n ++ us) =
      some ⟨name, n + 9 + name.length, n + 9 + name.length + 11,
        ⟨.punct, n + (signature name).length, [Ascii.openBrace]⟩, us⟩ := by
  have hkeyword :
      (⟨.ident, n, Bytes.lit "function"⟩ : Token).isIdent (Bytes.lit "function") = true := by
    simp [Token.isIdent]
  have hoffset : n + (signature name).length = n + 9 + name.length + 12 := by
    rw [length_signature]
    omega
  have hheader : header? ((signatureTokens name n ++ us).tail) = some ⟨name, n + 9 + name.length,
      n + 9 + name.length + 11, ⟨.punct, n + 9 + name.length + 12, [Ascii.openBrace]⟩, us⟩ := by
    have hcomma : Bytes.lit "," = [Ascii.comma] := by decide
    simp [signatureTokens, header?, skipStar, takeName, Token.isPunct, Token.stop, hcomma]
  rw [hoffset]
  unfold signatureTokens at hheader ⊢
  rw [List.cons_append, firstHeader?, if_pos hkeyword]
  simp only [List.cons_append, List.tail_cons] at hheader ⊢
  rw [hheader]

/-! ## Locating it -/

theorem significant_append (ts us : List Token) :
    significant (ts ++ us) = significant ts ++ significant us := List.filter_append ..

theorem identifiers_significant (ts : List Token) :
    identifiers (significant ts) = identifiers ts := by
  unfold identifiers significant
  rw [List.filter_filter]
  congr 2
  funext t
  cases hk : t.kind <;> simp [Token.isSignificant, hk]

theorem significant_signatureTokens (name : Bytes) (n : Nat) :
    significant (signatureTokens name n) = signatureTokens name n := by
  simp [significant, signatureTokens, Token.isSignificant]

theorem braces_after_signatureTokens (ctx : Context) (name : Bytes) (n : Nat) :
    (ctx.after (signatureTokens name n)).braces = .code :: ctx.braces := by
  have hopen : Ascii.openParen ≠ Ascii.openBrace ∧ Ascii.openParen ≠ Ascii.closeBrace := by decide
  have hcomma : Ascii.comma ≠ Ascii.openBrace ∧ Ascii.comma ≠ Ascii.closeBrace := by decide
  have hclose :
      Ascii.closeParen ≠ Ascii.openBrace ∧ Ascii.closeParen ≠ Ascii.closeBrace := by decide
  simp [signatureTokens, Context.advance, Context.bracesAfter, hopen, hcomma, hclose]

/-- The tokens of a script whose constructor stands behind a fragment. -/
theorem exists_significant_scan (pre body : Fragment) {name : Bytes} (hname : isName name)
    (rest : Bytes) :
    ∃ ts us vs, significant (scan (pre.text ++ (signature name ++ [Ascii.openBrace] ++
        (body.text ++ ([Ascii.closeBrace] ++ rest))))) =
      ts ++ (signatureTokens name pre.text.length ++ (us ++ ⟨.punct,
        pre.text.length + (signature name ++ [Ascii.openBrace]).length + body.text.length,
        [Ascii.closeBrace]⟩ :: vs)) ∧
      identifiers ts = pre.names ∧ Balanced us := by
  obtain ⟨ts, hts, hpre⟩ := pre.readsThrough
    (signature name ++ [Ascii.openBrace] ++ (body.text ++ ([Ascii.closeBrace] ++ rest))) {} 0
  have hsignature := reads_signature hname (Context.after {} ts) pre.text.length
    (body.text ++ ([Ascii.closeBrace] ++ rest))
  obtain ⟨us, hus, hbody⟩ := body.readsThrough ([Ascii.closeBrace] ++ rest)
    ((Context.after {} ts).after (signatureTokens name pre.text.length))
    (pre.text.length + (signature name ++ [Ascii.openBrace]).length)
  have hclose :
      lexeme (((Context.after {} ts).after (signatureTokens name pre.text.length)).after us)
      Ascii.closeBrace ([] ++ rest) = (.punct, 0) := by
    refine lexeme_of_closeBrace ?_ _
    rw [hbody.braces, braces_after_signatureTokens]
    simp
  have hreads := @Reads.single _ (pre.text.length + (signature name ++ [Ascii.openBrace]).length +
    body.text.length) _ _ _ _ (by decide) hclose
  have hscan := hts.scan_eq
  rw [Nat.zero_add, hsignature.scan_eq, hus.scan_eq, hreads.scan_eq] at hscan
  generalize solid (scanFrom _ _ rest) = vs at hscan
  refine ⟨significant ts, significant us, significant vs, ?_, ?_, ?_⟩
  · rw [← significant_solid, show scan _ = scanFrom {} 0 _ from rfl, hscan]
    simp only [significant_append, significant_signatureTokens]
    rfl
  · rw [identifiers_significant, hpre.names_eq]
  · intro depth
    rw [nesting_significant, hbody.balanced depth]

/-- Behind a fragment that does not hold the keyword, the constructor is found together with the
brace that closes its body, whatever fragment the body is and whatever follows it. -/
theorem locate_wellFormed (pre body : Fragment) (name rest : Bytes)
    (hpre : Bytes.lit "function" ∉ pre.names) (hname : isName name) :
    locate (pre.text ++
      (Bytes.lit "function " ++ name ++ Bytes.lit "(props, el) " ++ [Ascii.openBrace]) ++
        body.text ++
        Ascii.closeBrace :: rest) =
      .ok {
        name
        params := Bytes.lit "(props, el)"
        opening := (pre.text ++ (Bytes.lit "function " ++ name ++ Bytes.lit "(props, el) ")).length
        closing :=
          (pre.text ++ (Bytes.lit "function " ++ name ++ Bytes.lit "(props, el) " ++
            [Ascii.openBrace]) ++
          body.text).length } := by
  have hopen : Bytes.lit "function " ++ name ++ Bytes.lit "(props, el) " = signature name := by
    have hparams : Bytes.lit "(props, el) " = parameterList ++ [Ascii.space] := by decide
    simp [signature, hparams]
  have hcode :
      pre.text ++ (signature name ++ [Ascii.openBrace]) ++ body.text ++ Ascii.closeBrace :: rest =
      pre.text ++ (signature name ++ [Ascii.openBrace] ++
        (body.text ++ ([Ascii.closeBrace] ++ rest))) := by
    simp
  obtain ⟨ts, us, vs, hscan, hts, hus⟩ := exists_significant_scan pre body hname rest
  have hheader := firstHeader?_signatureTokens name pre.text.length (us ++ ⟨.punct,
    pre.text.length + (signature name ++ [Ascii.openBrace]).length + body.text.length,
    [Ascii.closeBrace]⟩ :: vs)
  have hslice : slice (pre.text ++ (signature name ++ [Ascii.openBrace] ++
      (body.text ++ ([Ascii.closeBrace] ++ rest)))) (pre.text.length + 9 + name.length)
      (pre.text.length + 9 + name.length + 11) = parameterList := by
    have hslice := slice_append (pre.text ++ Bytes.lit "function " ++ name) parameterList
      (Ascii.space :: Ascii.openBrace :: (body.text ++ ([Ascii.closeBrace] ++ rest)))
    have hfunction : (Bytes.lit "function ").length = 9 := by decide
    have hparams : parameterList.length = 11 := by decide
    simpa [signature, hfunction, hparams, Nat.add_assoc] using hslice
  have hclosing : ∀ n, closingBrace? 0 (us ++ ⟨.punct, n, [Ascii.closeBrace]⟩ :: vs) =
      some ⟨.punct, n, [Ascii.closeBrace]⟩ := by
    intro n
    have hne : Ascii.closeBrace ≠ Ascii.openBrace := by decide
    rw [closingBrace?_append (hus 0), closingBrace?.eq_def]
    simp [hne]
  rw [hopen, hcode, locate, hscan, firstHeader?_append (by rwa [hts]), hheader]
  simp only [hslice, hclosing, List.length_append]
  rfl

/-- A comment, a string and a template literal that look like constructors. -/
def sampleFront : Fragment :=
  .cons (.lineComment (Bytes.lit " function f(props, el) " ++ [Ascii.openBrace]) (by decide)) <|
  .cons (.string (Bytes.lit "function")) <|
  .cons (.template <| .hole (Ascii.closeBrace :: Bytes.lit " $") ⟨by decide, by decide, by decide⟩
    (.cons (.bracketed (Ascii.openBrace, Ascii.closeBrace) (by decide)
      (.cons (.template (.last [Ascii.openBrace] ⟨by decide, by decide, by decide⟩)) .nil)) .nil)
    (.last (Ascii.openBrace :: Bytes.lit " function") ⟨by decide, by decide, by decide⟩)) .nil

/-- A body with braces in a string, in a comment and in the text of a template literal. -/
def sampleBody : Fragment :=
  .cons (.name (Bytes.lit "function") (by decide)) <|
  .cons (.bracketed (Ascii.openBrace, Ascii.closeBrace) (by decide)
    (.cons (.string [Ascii.closeBrace]) .nil)) <|
  .cons (.blockComment [Ascii.closeBrace] (by decide)) <|
  .cons (.template (.hole [Ascii.closeBrace] ⟨by decide, by decide, by decide⟩ .nil
    (.last [Ascii.closeBrace] ⟨by decide, by decide, by decide⟩))) .nil

theorem locate_wellFormed_sample :
    Bytes.lit "function" ∉ sampleFront.names ∧
      locate (sampleFront.text ++ (Bytes.lit "function " ++ Bytes.lit "Counter" ++
          Bytes.lit "(props, el) " ++ [Ascii.openBrace]) ++ sampleBody.text ++ Ascii.closeBrace ::
            [Ascii.space, Ascii.closeBrace]) =
        .ok ⟨Bytes.lit "Counter", Bytes.lit "(props, el)", 93, 124⟩ := by
  have hfront : Bytes.lit "function" ∉ sampleFront.names := by decide
  refine ⟨hfront, ?_⟩
  rw [locate_wellFormed sampleFront sampleBody (Bytes.lit "Counter") _ hfront (by decide)]
  cbv

end ComponentCompiler.Script
