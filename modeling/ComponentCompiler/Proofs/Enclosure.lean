import ComponentCompiler.Proofs.HookRewriting
import ComponentCompiler.Proofs.Partition
import ComponentCompiler.Proofs.PlainText
import Mathlib

/-!
# Hooks and the brackets around them

Whether a hook next to a brace or a comma is a key depends on the bracket around it. The brackets of
a script are a word of opening and closing ends, to which a stretch of a template literal may add
two: it ends one substitution and begins the next. Where the ends are paired, the innermost bracket
around a place is the one with nothing but paired ends between itself and the place (`Innermost`).
The stack that the search for references keeps has that bracket on top, so what is rewritten can be
said without the stack.
-/

namespace ComponentCompiler.Script

/-! ## Paired ends -/

/-- One end of a pair of brackets. -/
inductive BracketEnd where
  | opening (b : Bracket)
  | closing (b : Bracket)
  deriving DecidableEq, Repr, Inhabited

/-- Words in which each opening end has a closing end of its own. -/
inductive Paired : List BracketEnd → Prop
  | nil : Paired []
  | pair (b : Bracket) {inner rest : List BracketEnd} (hinner : Paired inner)
    (hrest : Paired rest) :
      Paired (.opening b :: (inner ++ .closing b :: rest))

/-- Words that leave the brackets `st` open, innermost first. -/
inductive LeavesOpen : List Bracket → List BracketEnd → Prop
  | nil {es : List BracketEnd} (h : Paired es) : LeavesOpen [] es
  | cons (b : Bracket) {st : List Bracket} {outer inner : List BracketEnd} (h : LeavesOpen st outer)
      (hinner : Paired inner) : LeavesOpen (b :: st) (outer ++ .opening b :: inner)

/-- Words that close the brackets `st`, innermost first, and leave none open. -/
inductive Closes : List Bracket → List BracketEnd → Prop
  | nil {es : List BracketEnd} (h : Paired es) : Closes [] es
  | cons (b : Bracket) {st : List Bracket} {inner outer : List BracketEnd} (hinner : Paired inner)
      (h : Closes st outer) : Closes (b :: st) (inner ++ .closing b :: outer)

section

variable {b : Bracket} {st : List Bracket} {es us vs : List BracketEnd}

theorem Paired.append (hus : Paired us) (hvs : Paired vs) : Paired (us ++ vs) := by
  induction hus with
  | nil => exact hvs
  | pair b hinner _ _ ih =>
      rw [List.cons_append, List.append_assoc, List.cons_append]
      exact .pair b hinner ih

theorem LeavesOpen.paired_append (h : LeavesOpen st es) (hus : Paired us) :
    LeavesOpen st (us ++ es) := by
  induction h with
  | nil h => exact .nil (hus.append h)
  | cons b _ hinner ih =>
      rw [← List.append_assoc]
      exact .cons b ih hinner

theorem LeavesOpen.opening_cons (h : LeavesOpen st es) (b : Bracket) :
    LeavesOpen (st ++ [b]) (.opening b :: es) := by
  induction h with
  | nil h => exact .cons b (.nil .nil) h
  | cons b' _ hinner ih => exact .cons b' ih hinner

theorem Closes.paired_append (h : Closes st es) (hus : Paired us) : Closes st (us ++ es) := by
  cases h with
  | nil h => exact .nil (hus.append h)
  | cons b hinner h =>
      rw [← List.append_assoc]
      exact .cons b (hus.append hinner) h

theorem Closes.append_closing (h : Closes st es) (b : Bracket) (hvs : Paired vs) :
    Closes (st ++ [b]) (es ++ .closing b :: vs) := by
  induction h with
  | nil h => exact .cons b h (.nil hvs)
  | cons b' hinner _ ih =>
      rw [List.append_assoc, List.cons_append]
      exact .cons b' hinner ih

/-- Paired ends cut anywhere: what the first part leaves open the second part closes. -/
theorem Paired.cut (h : Paired (us ++ vs)) : ∃ st, LeavesOpen st us ∧ Closes st vs := by
  generalize hes : us ++ vs = es at h
  induction h generalizing us vs with
  | nil =>
      obtain ⟨rfl, rfl⟩ := List.append_eq_nil_iff.mp hes
      exact ⟨[], .nil .nil, .nil .nil⟩
  | @pair b inner rest hinner hrest ihinner ihrest =>
      cases us with
      | nil =>
          obtain rfl : vs = .opening b :: (inner ++ .closing b :: rest) := hes
          exact ⟨[], .nil .nil, .nil (.pair b hinner hrest)⟩
      | cons e us =>
          obtain ⟨rfl, htail⟩ := List.cons.inj hes
          -- the cut is inside the pair or behind it
          rcases List.append_eq_append_iff.mp htail with ⟨more, rfl, hvs⟩ | ⟨more, rfl, hrest'⟩
          · obtain ⟨st, hopen, hclose⟩ := ihinner rfl
            rw [hvs]
            exact ⟨st ++ [b], hopen.opening_cons b, hclose.append_closing b hrest⟩
          · cases more with
            | nil =>
                obtain rfl : .closing b :: rest = vs := hrest'
                exact ⟨[b], .cons b (.nil .nil) (by rwa [List.append_nil]),
                  .cons b .nil (.nil hrest)⟩
            | cons e more =>
                obtain ⟨rfl, rfl⟩ := List.cons.inj hrest'
                obtain ⟨st, hopen, hclose⟩ := ihrest rfl
                refine ⟨st, ?_, hclose⟩
                have hpair : Paired (.opening b :: (inner ++ [.closing b])) := .pair b hinner .nil
                simpa using hopen.paired_append hpair

end

/-- Whether a word closes the brackets `st`, innermost first, and leaves none open. -/
def closesAll : List Bracket → List BracketEnd → Bool
  | st, [] => st.isEmpty
  | st, .opening b :: es => closesAll (b :: st) es
  | b :: st, .closing b' :: es => b == b' && closesAll st es
  | [], .closing _ :: _ => false

theorem Paired.closesAll_append {us : List BracketEnd} (h : Paired us) (st : List Bracket)
    (es : List BracketEnd) : closesAll st (us ++ es) = closesAll st es := by
  induction h generalizing st es with
  | nil => rfl
  | pair b _ _ ihinner ihrest =>
      rw [List.cons_append, List.append_assoc, List.cons_append, closesAll, ihinner, closesAll,
        ihrest]
      simp

theorem closesAll_iff {st : List Bracket} {es : List BracketEnd} :
    closesAll st es = true ↔ Closes st es := by
  constructor
  · intro h
    induction es generalizing st with
    | nil =>
        obtain rfl : st = [] := List.isEmpty_iff.mp (by simpa [closesAll] using h)
        exact .nil .nil
    | cons e es ih =>
        cases e with
        | opening b =>
            rw [closesAll] at h
            cases ih h with
            | cons _ hinner hclose => simpa using hclose.paired_append (.pair b hinner .nil)
        | closing b =>
            cases st with
            | nil => simp [closesAll] at h
            | cons b' st =>
                simp only [closesAll, Bool.and_eq_true, beq_iff_eq] at h
                obtain ⟨rfl, h⟩ := h
                exact .cons b' .nil (ih h)
  · intro h
    induction h with
    | nil h =>
        have hall := h.closesAll_append [] []
        rwa [List.append_nil] at hall
    | cons b hinner _ ih =>
        rw [hinner.closesAll_append, closesAll, ih]
        simp

instance (es : List BracketEnd) : Decidable (Paired es) :=
  decidable_of_iff (closesAll [] es = true) <| closesAll_iff.trans
    ⟨fun h => by cases h with | nil h => exact h, .nil⟩

/-! ## The brackets of a script -/

/-- The punctuation that brackets are made of. -/
def bracketMarks : List (Bytes × BracketEnd) :=
  [([Ascii.openParen], .opening .paren), ([Ascii.closeParen], .closing .paren),
    ([Ascii.openBracket], .opening .square), ([Ascii.closeBracket], .closing .square),
    ([Ascii.openBrace], .opening .brace), ([Ascii.closeBrace], .closing .brace)]

/-- The ends of brackets in a token. A stretch of a template literal that begins with a brace ends a
substitution, and it may begin another one. -/
def Token.bracketEnds (t : Token) : List BracketEnd :=
  match t.kind with
  | .punct => (bracketMarks.lookup t.text).toList
  | .template opens =>
    (if t.text.head? = some Ascii.closeBrace then [.closing .substitution] else []) ++
      if opens then [.opening .substitution] else []
  | _ => []

/-- The ends of brackets in a list of tokens. -/
def bracketEnds (ts : List Token) : List BracketEnd := ts.flatMap Token.bracketEnds

/-- Tokens whose brackets and substitutions are each closed by their own closer. -/
def ProperlyNested (ts : List Token) : Prop := Paired (bracketEnds ts)

instance (ts : List Token) : Decidable (ProperlyNested ts) := inferInstanceAs (Decidable (Paired _))

/-- The innermost bracket around the place between the tokens `before` and the tokens `behind` is
`b`: one pair of this kind begins before the place and ends behind it, and every bracket between its
ends and the place is closed again. -/
def Innermost (b : Bracket) (before behind : List Token) : Prop :=
  ∃ outer inner inner' outer',
    bracketEnds before = outer ++ .opening b :: inner ∧ Paired inner ∧
    bracketEnds behind = inner' ++ .closing b :: outer' ∧ Paired inner'

/-- The brackets that are open after one more end. -/
def openAfter (st : List Bracket) : BracketEnd → List Bracket
  | .opening b => b :: st
  | .closing _ => st.tail

theorem bracketsAfter_eq (st : List Bracket) (t : Token) :
    bracketsAfter st t = t.bracketEnds.foldl openAfter st := by
  unfold bracketsAfter Token.bracketEnds
  cases t.kind with
  | punct =>
      by_cases hmark : t.text ∈ bracketMarks.map Prod.fst
      · simp only [bracketMarks, List.map_cons, List.map_nil, List.mem_cons, List.not_mem_nil,
          or_false] at hmark
        rcases hmark with h | h | h | h | h | h <;> rw [h] <;> rfl
      · simp only [bracketMarks, List.map_cons, List.map_nil, List.mem_cons, List.not_mem_nil,
          or_false, not_or] at hmark
        simp [bracketMarks, List.lookup, beq_false_of_ne, hmark]
  | template opens =>
      cases opens <;> by_cases h : t.text.head? = some Ascii.closeBrace <;> simp [h, openAfter]
  | _ => rfl

theorem foldl_bracketsAfter (st : List Bracket) (ts : List Token) :
    ts.foldl bracketsAfter st = (bracketEnds ts).foldl openAfter st := by
  induction ts generalizing st with
  | nil => rfl
  | cons t ts ih =>
      rw [List.foldl_cons, ih, bracketsAfter_eq, bracketEnds, bracketEnds, List.flatMap_cons,
        List.foldl_append]

/-- Paired ends leave the stack as it is. -/
theorem Paired.foldl_openAfter {es : List BracketEnd} (h : Paired es) (st : List Bracket) :
    es.foldl openAfter st = st := by
  induction h generalizing st with
  | nil => rfl
  | pair b _ _ ihinner ihrest =>
      rw [List.foldl_cons, List.foldl_append, ihinner, List.foldl_cons, ihrest]
      rfl

theorem LeavesOpen.foldl_openAfter {st : List Bracket} {es : List BracketEnd}
    (h : LeavesOpen st es) :
    es.foldl openAfter [] = st := by
  induction h with
  | nil h => exact h.foldl_openAfter []
  | cons b _ hinner ih =>
      rw [List.foldl_append, ih, List.foldl_cons, hinner.foldl_openAfter]
      rfl

/-- The innermost bracket around a place is on top of the stack there. -/
theorem head?_brackets_iff {before behind : List Token} (h : ProperlyNested (before ++ behind))
    (b : Bracket) : (before.foldl bracketsAfter []).head? = some b ↔ Innermost b before behind := by
  rw [ProperlyNested, bracketEnds, List.flatMap_append] at h
  obtain ⟨st, hopen, hclose⟩ := h.cut
  rw [foldl_bracketsAfter]
  constructor
  · intro hhead
    rw [show bracketEnds before = before.flatMap Token.bracketEnds from rfl,
      hopen.foldl_openAfter] at hhead
    obtain ⟨st', rfl⟩ := List.head?_eq_some_iff.mp hhead
    generalize hbefore : before.flatMap Token.bracketEnds = es at hopen
    generalize hbehind : behind.flatMap Token.bracketEnds = es' at hclose
    cases hopen with
    | cons _ _ hinner =>
        cases hclose with
        | cons _ hinner' _ => exact ⟨_, _, _, _, hbefore, hinner, hbehind, hinner'⟩
  · rintro ⟨outer, inner, _, _, hbefore, hinner, _, _⟩
    rw [hbefore, List.foldl_append, List.foldl_cons, hinner.foldl_openAfter]
    rfl

/-! ## Which hooks are rewritten -/

/-- A token holds no offset of another one. -/
theorem Scans.eq_of_holds {ctx : Context} {n : Nat} {x r : Bytes} {ts : List Token} {t u : Token}
    (h : Scans ctx n x r ts) (ht : t ∈ ts) (hu : u ∈ ts) (hle : u.start ≤ t.start)
    (hlt : t.start < u.stop) : u = t := by
  obtain ⟨before, behind, rfl⟩ := List.append_of_mem ht
  obtain ⟨_, _, hstop⟩ := List.pairwise_append.mp h.pairwise_stop
  obtain ⟨_, hrest, _⟩ := List.pairwise_append.mp h.pairwise_start
  rcases List.mem_append.mp hu with hu | hu
  · have := hstop u hu t List.mem_cons_self
    omega
  · rcases List.mem_cons.mp hu with rfl | hu
    · rfl
    · have := (List.pairwise_cons.mp hrest).1 u hu
      omega

theorem mem_scan_of_mem_significant {code : Bytes} {t : Token} (h : t ∈ significant (scan code)) :
    t ∈ scan code := (List.mem_filter.mp h).1

theorem significant_pairwise (code : Bytes) :
    (significant (scan code)).Pairwise fun a b => a.start < b.start :=
  (scans_scan code).pairwise_start.sublist List.filter_sublist

/-- Whether a token is found to be a reference depends on the brackets open in front of it and on
its two neighbours. -/
theorem mem_hookReferences_iff (hooks : List Bytes) (enclosing : List Bracket) (prev : Option Token)
    {before behind : List Token} {t : Token}
    (h : (before ++ t :: behind).Pairwise fun a b => a.start < b.start) :
    t ∈ hookReferences hooks enclosing prev (before ++ t :: behind) ↔
      isHookReference hooks (before.foldl bracketsAfter enclosing) (before.getLast?.or prev) t
        behind.head? = true := by
  induction before generalizing enclosing prev with
  | nil =>
      have hnot : t ∉ behind := fun hmem => Nat.lt_irrefl _ ((List.pairwise_cons.mp h).1 t hmem)
      exact mem_hookReferences_self hnot
  | cons u before ih =>
      obtain ⟨hlt, htail⟩ := List.pairwise_cons.mp h
      have hne : t ≠ u := by
        rintro rfl
        exact Nat.lt_irrefl _ (hlt t (by simp))
      have hprev : (u :: before).getLast?.or prev = before.getLast?.or (some u) := by
        cases hlast : before.getLast? <;> simp [List.getLast?_cons, hlast]
      rw [hprev, List.foldl_cons, ← ih _ _ htail, List.cons_append, hookReferences]
      split
      · simp [hne]
      · exact Iff.rfl

theorem mem_hookSplices_iff {code : Bytes} (hooks : List Bytes) {before behind : List Token}
    {t : Token} (h : significant (scan code) = before ++ t :: behind) :
    ⟨t.start, memberOf⟩ ∈ hookSplices code hooks ↔
      isHookReference hooks (before.foldl bracketsAfter []) before.getLast? t behind.head? =
        true := by
  have hpairwise := significant_pairwise code
  rw [h] at hpairwise
  have hreference := mem_hookReferences_iff hooks [] none hpairwise
  rw [Option.or_none, ← h] at hreference
  rw [← hreference, hookSplices, List.mem_map]
  constructor
  · rintro ⟨u, hu, hsplice⟩
    have hstart : u.start = t.start := congrArg Splice.offset hsplice
    have husig := (hookReferences_sublist _ _ _ _).mem hu
    have htsig : t ∈ significant (scan code) := by simp [h]
    have hstop : t.start < t.stop := by
      have :=
        List.length_pos_iff.mpr ((scans_scan code).covers (mem_scan_of_mem_significant htsig)).1
      rw [Token.stop]
      omega
    obtain rfl := (scans_scan code).eq_of_holds (mem_scan_of_mem_significant husig)
      (mem_scan_of_mem_significant htsig) (by omega) (by omega)
    exact hu
  · exact fun href => ⟨t, href, rfl⟩

theorem isReference_iff {prev : Token} {next : Option Token} {inBraces : Bool} :
    isReference prev next inBraces = true ↔
      ¬prev.isPunct Ascii.dot ∧ ¬(prev.kind = .ident ∧ prev.text ∈ declarationKeywords) ∧
      ¬(inBraces = true ∧ (prev.isPunct Ascii.openBrace ∨ prev.isPunct Ascii.comma) ∧
        ∃ t ∈ next, t.isPunct Ascii.colon ∨ t.isPunct Ascii.comma ∨ t.isPunct Ascii.closeBrace ∨
          t.isIdent (Bytes.lit "as")) := by
  have hends : next.any endsKey = true ↔ ∃ t ∈ next, t.isPunct Ascii.colon ∨ t.isPunct Ascii.comma ∨
      t.isPunct Ascii.closeBrace ∨ t.isIdent (Bytes.lit "as") := by
    cases next <;> simp [endsKey, or_assoc]
  rw [← hends]
  simp only [isReference, Bool.and_eq_true, Bool.not_eq_true', ← Bool.not_eq_true, Bool.or_eq_true,
    beq_iff_eq, List.contains_iff_mem, and_assoc]

/-- A hook behind another token is rewritten just in case it is found to be a reference there. -/
theorem mem_hookSplices_behind {code : Bytes} {hooks : List Bytes} {before behind : List Token}
    {prev t : Token} (h : significant (scan code) = before ++ prev :: t :: behind)
    (hident : t.kind = .ident) (hhook : t.text ∈ hooks) :
    ⟨t.start, memberOf⟩ ∈ hookSplices code hooks ↔
      isReference prev behind.head?
        (((before ++ [prev]).foldl bracketsAfter []).head? == some .brace) = true := by
  rw [List.append_cons] at h
  rw [mem_hookSplices_iff hooks h, List.getLast?_concat]
  simp [isHookReference, hident, hhook]

/-- Hooks are rewritten exactly, at any nesting. In a script whose brackets are properly nested, a
hook that is neither the first token nor a member is rewritten if and only if no declaration keyword
is in front of it and it is no key or name of a list in braces: the innermost bracket around it is a
brace, a brace or a comma is in front of it, and a colon, a comma, a closing brace or `as` follows.
In any script, each insertion is `this.` at the start of an identifier that names a hook, every
token that holds its offset is that identifier, and the offsets ascend. -/
theorem hookSplices_exact (code : Bytes) (hooks : List Bytes) :
    (ProperlyNested (significant (scan code)) →
      ∀ before prev t behind, significant (scan code) = before ++ prev :: t :: behind →
        t.kind = .ident → t.text ∈ hooks → ¬prev.isPunct Ascii.dot →
        (⟨t.start, Bytes.lit "this."⟩ ∈ hookSplices code hooks ↔
          ¬(prev.kind = .ident ∧ prev.text ∈ declarationKeywords) ∧
          ¬(Innermost .brace (before ++ [prev]) behind ∧
            (prev.isPunct Ascii.openBrace ∨ prev.isPunct Ascii.comma) ∧
            ∃ next ∈ behind.head?, next.isPunct Ascii.colon ∨ next.isPunct Ascii.comma ∨
              next.isPunct Ascii.closeBrace ∨ next.isIdent (Bytes.lit "as")))) ∧
    (∀ s ∈ hookSplices code hooks, s.text = Bytes.lit "this." ∧
      (∃ t ∈ scan code, t.start = s.offset ∧ t.kind = .ident ∧ t.text ∈ hooks) ∧
      ∀ u ∈ scan code, u.start ≤ s.offset → s.offset < u.stop →
        u.start = s.offset ∧ u.kind = .ident ∧ u.text ∈ hooks) ∧
    (hookSplices code hooks).Pairwise (·.offset < ·.offset) := by
  refine ⟨fun hnested before prev t behind hsig hident hhook hdot => ?_, fun s hs => ?_, ?_⟩
  · have hplace : ProperlyNested ((before ++ [prev]) ++ behind) := by
      rw [hsig] at hnested
      simpa [ProperlyNested, bracketEnds, Token.bracketEnds, hident] using hnested
    rw [← head?_brackets_iff hplace]
    have href := mem_hookSplices_behind hsig hident hhook
    rw [isReference_iff, beq_iff_eq] at href
    exact href.trans ⟨fun h => h.2, fun h => ⟨hdot, h⟩⟩
  · obtain ⟨t, ht, rfl⟩ := List.mem_map.mp hs
    have hscan := mem_scan_of_mem_significant ((hookReferences_sublist _ _ _ _).mem ht)
    have hhook := hook_of_mem_hookReferences ht
    refine ⟨rfl, ⟨t, hscan, rfl, hhook⟩, fun u hu hle hlt => ?_⟩
    obtain rfl := (scans_scan code).eq_of_holds hscan hu hle hlt
    exact ⟨rfl, hhook⟩
  · exact List.pairwise_map.mp (hookOffsets_pairwise code hooks)

/-- A literal whose first substitution holds a list and whose second one holds an
object, in braces. -/
def nestedKeys : Bytes :=
  Bytes.lit "x = " ++ [Ascii.openBrace] ++ Bytes.lit "a: `${[b, go, c]}${{b, go}}`" ++
    [Ascii.closeBrace]

/-- The hook in the list is rewritten, though braces are around it; the one in the
object is a key. -/
theorem hookSplices_exact_nested :
    ProperlyNested (significant (scan nestedKeys)) ∧
    ⟨15, Bytes.lit "this."⟩ ∈ hookSplices nestedKeys [Bytes.lit "go"] ∧
    ⟨28, Bytes.lit "this."⟩ ∉ hookSplices nestedKeys [Bytes.lit "go"] := by
  have hnested : ProperlyNested (significant (scan nestedKeys)) := by decide +kernel
  have hexact := (hookSplices_exact nestedKeys [Bytes.lit "go"]).1 hnested
  have hlist := hexact ((significant (scan nestedKeys)).take 8) ⟨.punct, 13, [Ascii.comma]⟩
    ⟨.ident, 15, Bytes.lit "go"⟩ ((significant (scan nestedKeys)).drop 10) (by decide +kernel) rfl
    (by decide) (by decide)
  have hobject := hexact ((significant (scan nestedKeys)).take 16) ⟨.punct, 26, [Ascii.comma]⟩
    ⟨.ident, 28, Bytes.lit "go"⟩ ((significant (scan nestedKeys)).drop 18) (by decide +kernel) rfl
    (by decide) (by decide)
  rw [← head?_brackets_iff (by decide +kernel)] at hlist hobject
  exact ⟨hnested, hlist.mpr (by decide +kernel), mt hobject.mp (by decide +kernel)⟩

/-! ## Hooks that are called -/

/-- A name that is called is no key, whatever the brackets around it are. -/
theorem isReference_call_iff {paren : Token} (hparen : paren.isPunct Ascii.openParen) (prev : Token)
    (inBraces : Bool) :
    isReference prev (some paren) inBraces = true ↔
      ¬prev.isPunct Ascii.dot ∧ ¬(prev.kind = .ident ∧ prev.text ∈ declarationKeywords) := by
  have hmark : ∀ b, Ascii.openParen ≠ b → ¬paren.isPunct b := fun b => Token.not_isPunct hparen
  have hident : ¬paren.isIdent (Bytes.lit "as") := by
    simp [Token.isIdent, (Token.isPunct_iff.mp hparen).1]
  rw [isReference_iff]
  simp [hmark Ascii.colon (by decide), hmark Ascii.comma (by decide),
    hmark Ascii.closeBrace (by decide), hident]

/-- A hook that is called is rewritten unless a dot or a declaration keyword is in front of it,
whatever the brackets around it are. A dot in front is taken for a member access also where it is
the last dot of a spread, so a hook whose call is spread is never rewritten. -/
theorem called_hook_rewritten_iff (code : Bytes) (hooks : List Bytes) (before : List Token)
    (t paren : Token) (behind : List Token)
    (hsig : significant (scan code) = before ++ t :: paren :: behind) (hident : t.kind = .ident)
    (hhook : t.text ∈ hooks) (hparen : paren.isPunct Ascii.openParen) :
    (⟨t.start, Bytes.lit "this."⟩ ∈ hookSplices code hooks ↔
      ∀ prev ∈ before.getLast?, ¬prev.isPunct Ascii.dot ∧
        ¬(prev.kind = .ident ∧ prev.text ∈ declarationKeywords)) ∧
    (∀ front a b c, before = front ++ [a, b, c] → a.isPunct Ascii.dot → b.isPunct Ascii.dot →
      c.isPunct Ascii.dot → ⟨t.start, Bytes.lit "this."⟩ ∉ hookSplices code hooks) := by
  have hiff : ⟨t.start, Bytes.lit "this."⟩ ∈ hookSplices code hooks ↔
      ∀ prev ∈ before.getLast?, ¬prev.isPunct Ascii.dot ∧
        ¬(prev.kind = .ident ∧ prev.text ∈ declarationKeywords) := by
    refine (mem_hookSplices_iff hooks hsig).trans ?_
    cases before.getLast? with
    | none => simp [isHookReference, hident, hhook]
    | some prev =>
        simp [isHookReference, hident, hhook, isReference_call_iff hparen]
  refine ⟨hiff, fun front a b c hbefore _ _ hdot hmem => ?_⟩
  have hlast : c ∈ before.getLast? := by simp [hbefore]
  exact (hiff.mp hmem c hlast).1 hdot

/-- A call with two arguments that are calls of a hook, of which the first one is spread. -/
def spreadScript : Bytes := Bytes.lit "f(...go(0), go(1))"

theorem called_hook_rewritten_spread :
    ⟨5, Bytes.lit "this."⟩ ∉ hookSplices spreadScript [Bytes.lit "go"] ∧
    ⟨12, Bytes.lit "this."⟩ ∈ hookSplices spreadScript [Bytes.lit "go"] := by
  have hspread := called_hook_rewritten_iff spreadScript [Bytes.lit "go"]
    ((significant (scan spreadScript)).take 5) ⟨.ident, 5, Bytes.lit "go"⟩
      ⟨.punct, 7, [Ascii.openParen]⟩
    ((significant (scan spreadScript)).drop 7) (by decide +kernel) rfl (by decide) (by decide)
  have hplain := called_hook_rewritten_iff spreadScript [Bytes.lit "go"]
    ((significant (scan spreadScript)).take 10) ⟨.ident, 12, Bytes.lit "go"⟩
      ⟨.punct, 14, [Ascii.openParen]⟩
    ((significant (scan spreadScript)).drop 12) (by decide +kernel) rfl (by decide) (by decide)
  exact ⟨hspread.2 ((significant (scan spreadScript)).take 2) ⟨.punct, 2, [Ascii.dot]⟩
    ⟨.punct, 3, [Ascii.dot]⟩ ⟨.punct, 4, [Ascii.dot]⟩ (by decide +kernel) (by decide) (by decide)
      (by decide),
    hplain.1.mpr (by decide +kernel)⟩

/-- The call that is spread is a reference to the hook, and it is not rewritten. -/
theorem hookSplices_skips_spread :
    (significant (scan spreadScript)).take 7 =
      [⟨.ident, 0, Bytes.lit "f"⟩, ⟨.punct, 1, [Ascii.openParen]⟩, ⟨.punct, 2, [Ascii.dot]⟩,
        ⟨.punct, 3, [Ascii.dot]⟩, ⟨.punct, 4, [Ascii.dot]⟩, ⟨.ident, 5, Bytes.lit "go"⟩,
        ⟨.punct, 7, [Ascii.openParen]⟩] ∧
    hookSplices spreadScript [Bytes.lit "go"] = [⟨12, Bytes.lit "this."⟩] := by
  decide +kernel

end ComponentCompiler.Script
