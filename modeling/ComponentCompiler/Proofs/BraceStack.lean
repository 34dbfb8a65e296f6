import ComponentCompiler.Proofs.Partition
import ComponentCompiler.Proofs.Simulation

/-!
# The body of the constructor on the scanner's stack of braces

The scanner keeps a stack of open braces, which also holds the substitutions of template literals,
and decides from its top whether a closing brace is punctuation at all. The search for the end of
the constructor's body only counts punctuation. Here each entry of the stack is labelled with the
offset of the token that has pushed it, so that one can say which entry a token pops: the search
stops exactly at the token that pops the entry of the body's opening brace.
-/

namespace ComponentCompiler.Script

/-! ## The stack with its origins -/

/-- An entry of the stack of open braces, with the offset of the token that has pushed it. -/
structure Opener where
  brace : Brace
  offset : Nat
  deriving DecidableEq, Repr, Inhabited

/-- The entries on the stack after a token. -/
def openersAfter (st : List Opener) (t : Token) : List Opener :=
  match t.kind with
  | .punct =>
    if t.text == [Ascii.openBrace] then ⟨.code, t.start⟩ :: st
    else if t.text == [Ascii.closeBrace] then st.tail
    else st
  | .template opens =>
    let outer := if t.text.head? == some Ascii.closeBrace then st.tail else st
    if opens then ⟨.substitution, t.start⟩ :: outer else outer
  | _ => st

/-- The entries on the stack after a list of tokens. -/
def openers (st : List Opener) (ts : List Token) : List Opener := ts.foldl openersAfter st

@[simp] theorem openers_nil (st : List Opener) : openers st [] = st := rfl

@[simp] theorem openers_cons (st : List Opener) (t : Token) (ts : List Token) :
    openers st (t :: ts) = openers (openersAfter st t) ts := rfl

@[simp] theorem openers_append (st : List Opener) (ts us : List Token) :
    openers st (ts ++ us) = openers (openers st ts) us := List.foldl_append ..

/-- Without the labels it is the stack of the scanner. -/
theorem map_brace_openersAfter {st : List Opener} {ctx : Context}
    (h : st.map Opener.brace = ctx.braces) (t : Token) :
    (openersAfter st t).map Opener.brace = (ctx.advance t).braces := by
  simp only [openersAfter, Context.advance, Context.bracesAfter, ← h]
  cases t.kind with
  | punct => simp [apply_ite (List.map Opener.brace)]
  | template opens => simp [apply_ite (List.map Opener.brace)]
  | _ => rfl

theorem map_brace_openers {st : List Opener} {ctx : Context} (h : st.map Opener.brace = ctx.braces)
    (ts : List Token) : (openers st ts).map Opener.brace = (ctx.after ts).braces := by
  induction ts generalizing st ctx with
  | nil => exact h
  | cons t ts ih => exact ih (map_brace_openersAfter h t)

theorem openersAfter_open {t : Token} (h : t.isPunct Ascii.openBrace) (st : List Opener) :
    openersAfter st t = ⟨.code, t.start⟩ :: st := by
  obtain ⟨hk, ht⟩ := Token.isPunct_iff.mp h
  simp [openersAfter, hk, ht]

theorem openersAfter_close {t : Token} (h : t.isPunct Ascii.closeBrace) (st : List Opener) :
    openersAfter st t = st.tail := by
  obtain ⟨hk, ht⟩ := Token.isPunct_iff.mp h
  have hne : Ascii.closeBrace ≠ Ascii.openBrace := by decide
  simp [openersAfter, hk, ht, hne]

/-- What a token does to the stack. -/
theorem openersAfter_cases (st : List Opener) (t : Token) :
    (t.isPunct Ascii.openBrace ∧ openersAfter st t = ⟨.code, t.start⟩ :: st) ∨
    (t.isPunct Ascii.closeBrace ∧ openersAfter st t = st.tail) ∨
    (¬t.isPunct Ascii.openBrace ∧ ¬t.isPunct Ascii.closeBrace ∧
      ((∃ opens, t.kind = .template opens ∧ openersAfter st t =
          (if opens then [⟨.substitution, t.start⟩] else []) ++
            (if t.text.head? = some Ascii.closeBrace then st.tail else st)) ∨
        openersAfter st t = st)) := by
  by_cases hopen : t.isPunct Ascii.openBrace = true
  · exact .inl ⟨hopen, openersAfter_open hopen st⟩
  by_cases hclose : t.isPunct Ascii.closeBrace = true
  · exact .inr (.inl ⟨hclose, openersAfter_close hclose st⟩)
  refine .inr (.inr ⟨hopen, hclose, ?_⟩)
  unfold openersAfter
  cases hk : t.kind with
  | punct =>
      simp only [Token.isPunct, hk, beq_self_eq_true, Bool.true_and] at hopen hclose
      exact .inr (by simp only [hopen, hclose, if_false, Bool.false_eq_true])
  | template opens =>
      refine .inl ⟨opens, rfl, ?_⟩
      cases opens <;> simp
  | _ => exact .inr rfl

/-- An entry has been there before, or one of the tokens has pushed it. -/
theorem mem_openers {st : List Opener} {ts : List Token} {e : Opener} (h : e ∈ openers st ts) :
    e ∈ st ∨ ∃ t ∈ ts, t.start = e.offset := by
  induction ts generalizing st with
  | nil => exact .inl h
  | cons t ts ih =>
      have hstep : e ∈ openersAfter st t → e ∈ st ∨ t.start = e.offset := by
        intro he
        rcases openersAfter_cases st t with ⟨_, heq⟩ | ⟨_, heq⟩ | ⟨_, _, ⟨opens, _, heq⟩ | heq⟩
        · rw [heq] at he
          rcases List.mem_cons.mp he with rfl | he
          · exact .inr rfl
          · exact .inl he
        · rw [heq] at he
          exact .inl (List.mem_of_mem_tail he)
        · rw [heq] at he
          rcases List.mem_append.mp he with he | he
          · split at he
            · obtain rfl := List.mem_singleton.mp he
              exact .inr rfl
            · cases he
          · split at he
            · exact .inl (List.mem_of_mem_tail he)
            · exact .inl he
        · rw [heq] at he
          exact .inl he
      rcases ih h with he | ⟨u, hu, hstart⟩
      · exact (hstep he).imp_right fun hstart => ⟨t, List.mem_cons_self, hstart⟩
      · exact .inr ⟨u, List.mem_cons_of_mem t hu, hstart⟩

/-! ## The entry of the body -/

/-- The stack `st` holds the entry `e` on top of `base`, and above it `depth` braces of the code and
any number of substitutions. -/
def Encloses (e : Opener) (base : List Opener) (depth : Nat) (st : List Opener) : Prop :=
  ∃ up, st = up ++ e :: base ∧ (up.map Opener.brace).count .code = depth

theorem Encloses.suffix {e : Opener} {base st : List Opener} {depth : Nat}
    (h : Encloses e base depth st) : e :: base <:+ st := by
  obtain ⟨up, rfl, _⟩ := h
  exact List.suffix_append up _

section

variable {e : Opener} {base st : List Opener} {depth : Nat} {ctx : Context} {t : Token}

/-- A closing brace pops a brace of the code, and the entry itself only if none is above it. -/
theorem Encloses.step_close (h : Encloses e base depth st) (hst : st.map Opener.brace = ctx.braces)
    (hadmits : ctx.Admits t) (hclose : t.isPunct Ascii.closeBrace) :
    (depth = 0 ∧ st = e :: base) ∨ ∃ d, depth = d + 1 ∧ Encloses e base d st.tail := by
  obtain ⟨up, rfl, hcount⟩ := h
  have hhead := hadmits.punct hclose
  rw [← hst] at hhead
  cases up with
  | nil => exact .inl ⟨hcount.symm, rfl⟩
  | cons u up =>
      have hu : u.brace = .code := by
        cases hb : u.brace with
        | code => rfl
        | substitution => simp [hb] at hhead
      refine .inr ⟨(up.map Opener.brace).count .code, ?_, up, rfl, rfl⟩
      rw [← hcount, List.map_cons, hu, List.count_cons_self]

/-- A stretch of a template literal pops a substitution at most, so the entry of a brace of the code
stays where it is. -/
theorem Encloses.step_template (h : Encloses e base depth st) (he : e.brace = .code)
    (hst : st.map Opener.brace = ctx.braces) (hadmits : ctx.Admits t) {opens : Bool}
    (hkind : t.kind = .template opens) :
    Encloses e base depth ((if opens then [⟨.substitution, t.start⟩] else []) ++
      (if t.text.head? = some Ascii.closeBrace then st.tail else st)) := by
  have hpush : ∀ st', Encloses e base depth st' →
      Encloses e base depth ((if opens then [⟨.substitution, t.start⟩] else []) ++ st') := by
    rintro _ ⟨up, rfl, hcount⟩
    refine ⟨(if opens then [⟨.substitution, t.start⟩] else []) ++ up, by simp, ?_⟩
    rw [List.map_append, List.count_append, hcount]
    cases opens <;> simp
  apply hpush
  split
  · rename_i hclose
    obtain ⟨up, rfl, hcount⟩ := h
    have hhead := hadmits.template opens hkind hclose
    rw [← hst] at hhead
    cases up with
    | nil => simp [he] at hhead
    | cons u up =>
        have hu : u.brace = .substitution := by simpa using hhead
        refine ⟨up, rfl, ?_⟩
        rw [← hcount, List.map_cons, hu, List.count_cons_of_ne (by decide)]
  · exact h

end

/-- Counting braces and popping the stack stay in step: the brace that is found pops the entry,
which has been on the stack until then, and where none is found the entry is never popped. -/
theorem Scans.closingBrace?_openers {ctx : Context} {n : Nat} {x r : Bytes} {ts : List Token}
    (h : Scans ctx n x r ts) {e : Opener} {base st : List Opener} {depth : Nat}
    (he : e.brace = .code) (hst : st.map Opener.brace = ctx.braces)
    (hin : Encloses e base depth st) :
    (∀ t, closingBrace? depth ts = some t →
      ∃ inner rest, ts = inner ++ t :: rest ∧ t.isPunct Ascii.closeBrace ∧
        openers st inner = e :: base ∧ ∀ us, us <+: inner → e :: base <:+ openers st us) ∧
    (closingBrace? depth ts = none → e :: base <:+ openers st ts) := by
  induction h generalizing st depth with
  | nil => exact ⟨fun t ht => by simp [closingBrace?] at ht, fun _ => hin.suffix⟩
  | @cons ctx n b tl x r k ts hlex h ih =>
      let t : Token := ⟨k, n, b :: tl⟩
      have hadmits : ctx.Admits t := Context.admits_of_lexeme hlex n
      have hafter := map_brace_openersAfter hst t
      -- the search goes on behind the token, with the entry still there
      have hgo : ∀ d, closingBrace? depth (t :: ts) = closingBrace? d ts →
          Encloses e base d (openersAfter st t) →
          (∀ u, closingBrace? depth (t :: ts) = some u →
            ∃ inner rest, t :: ts = inner ++ u :: rest ∧ u.isPunct Ascii.closeBrace ∧
              openers st inner = e :: base ∧ ∀ us, us <+: inner → e :: base <:+ openers st us) ∧
          (closingBrace? depth (t :: ts) = none → e :: base <:+ openers st (t :: ts)) := by
        intro d heq hd
        obtain ⟨hsome, hnone⟩ := ih hafter hd
        rw [heq]
        refine ⟨fun u hu => ?_, hnone⟩
        obtain ⟨inner, rest, rfl, hclose, htop, hstays⟩ := hsome u hu
        refine ⟨t :: inner, rest, rfl, hclose, htop, fun us hus => ?_⟩
        rcases List.prefix_cons_iff.mp hus with rfl | ⟨vs, rfl, hvs⟩
        · exact hin.suffix
        · exact hstays vs hvs
      rcases openersAfter_cases st t with ⟨hopen, heq⟩ | ⟨hclose, heq⟩ | ⟨hopen, hclose, hother⟩
      · refine hgo (depth + 1) (by simp [closingBrace?, hopen]) ?_
        obtain ⟨up, rfl, hcount⟩ := hin
        rw [heq]
        exact ⟨⟨.code, t.start⟩ :: up, rfl, by simp [hcount]⟩
      · have hopen : ¬t.isPunct Ascii.openBrace = true := by
          have hne : Ascii.closeBrace ≠ Ascii.openBrace := by decide
          simp [Token.isPunct, (Token.isPunct_iff.mp hclose).2, hne]
        rcases hin.step_close hst hadmits hclose with ⟨rfl, hst'⟩ | ⟨d, rfl, hd⟩
        · have hfound : closingBrace? 0 (t :: ts) = some t := by
            rw [closingBrace?, if_neg hopen, if_pos hclose]
          refine ⟨fun u hu => ?_, fun hnone => by rw [hfound] at hnone; cases hnone⟩
          obtain rfl : t = u := Option.some.inj (hfound.symm.trans hu)
          refine ⟨[], ts, rfl, hclose, hst', fun us hus => ?_⟩
          rw [List.prefix_nil.mp hus]
          exact hin.suffix
        · refine hgo d ?_ (heq ▸ hd)
          rw [closingBrace?, if_neg hopen, if_pos hclose]
      · refine hgo depth (by rw [closingBrace?.eq_def]; simp [hopen, hclose]) ?_
        rcases hother with ⟨opens, hkind, heq⟩ | heq
        · rw [heq]
          exact hin.step_template he hst hadmits hkind
        · rwa [heq]

/-! ## Locating and the stack -/

/-- White space and comments do not matter when braces are counted. -/
theorem closingBrace?_significant (depth : Nat) (ts : List Token) :
    closingBrace? depth (significant ts) = closingBrace? depth ts := by
  induction ts generalizing depth with
  | nil => rfl
  | cons t ts ih =>
      cases hs : t.isSignificant with
      | true =>
          have hcons : significant (t :: ts) = t :: significant ts := by simp [significant, hs]
          rw [hcons, closingBrace?.eq_def, closingBrace?.eq_def depth (t :: ts)]
          cases depth <;> simp only [ih]
      | false =>
          have hp : ∀ b, ¬t.isPunct b = true := by
            intro b hb
            simp [Token.isSignificant, (Token.isPunct_iff.mp hb).1] at hs
          have hdrop : significant (t :: ts) = significant ts := by simp [significant, hs]
          rw [hdrop, ih, closingBrace?.eq_def depth (t :: ts)]
          simp [hp]

/-- The tokens of a script around the opening brace of the first header, and what the search for the
brace that closes it has to do with the stack. -/
theorem closingBrace?_of_header {code : Bytes} {h : Header}
    (hh : firstHeader? (significant (scan code)) = some h) :
    ∃ before body, scan code = before ++ h.brace :: body ∧ h.brace.isPunct Ascii.openBrace ∧
      (∀ t, closingBrace? 0 h.body = some t →
        ∃ inner behind, body = inner ++ t :: behind ∧ t.isPunct Ascii.closeBrace ∧
          openers [] (before ++ h.brace :: (inner ++ [t])) = openers [] before ∧
          ∀ us, us <+: inner →
            ⟨.code, h.brace.start⟩ :: openers [] before <:+ openers [] (before ++ h.brace :: us)) ∧
      (closingBrace? 0 h.body = none →
        ⟨.code, h.brace.start⟩ :: openers [] before <:+ openers [] (scan code)) := by
  obtain ⟨⟨pre, hpre⟩, hbrace⟩ := firstHeader?_eq_some hh
  obtain ⟨before, body, hscan, _, hbody⟩ :=
    exists_split_of_filter (p := Token.isSignificant) hpre.symm
  have hscans := scans_scan code
  rw [hscan] at hscans
  obtain ⟨_, _, _, _, _, _, _, _, _, hrest⟩ := hscans.split
  have hopen := openersAfter_open hbrace (openers [] before)
  have hst : (openersAfter (openers [] before) h.brace).map Opener.brace =
      ((Context.after {} before).advance h.brace).braces :=
    map_brace_openersAfter (map_brace_openers rfl before) h.brace
  have hin : Encloses ⟨.code, h.brace.start⟩ (openers [] before) 0
      (openersAfter (openers [] before) h.brace) := ⟨[], hopen, rfl⟩
  obtain ⟨hsome, hnone⟩ := hrest.closingBrace?_openers rfl hst hin
  rw [hopen, ← closingBrace?_significant, show significant body = h.body from hbody] at hsome hnone
  refine ⟨before, body, hscan, hbrace, fun t ht => ?_, ?_⟩
  · obtain ⟨inner, behind, hsplit, hclose, htop, hstays⟩ := hsome t ht
    refine ⟨inner, behind, hsplit, hclose, ?_, by simpa [hopen] using hstays⟩
    simp [hopen, htop, openersAfter_close hclose]
  · rw [hscan]
    simpa [hopen] using hnone

/-- The entry of a brace is gone once a later token has popped it: no other token
pushes it again. -/
theorem not_mem_openers_of_popped {ts before inner behind : List Token} {brace t : Token}
    (hts : ts = before ++ brace :: (inner ++ t :: behind))
    (hpairwise : ts.Pairwise fun a b => a.start < b.start)
    (hpopped : openers [] (before ++ brace :: (inner ++ [t])) = openers [] before) :
    ⟨.code, brace.start⟩ ∉ openers [] ts := by
  intro hmem
  subst hts
  obtain ⟨_, hrest, hbefore⟩ := List.pairwise_append.mp hpairwise
  have hbehind := (List.pairwise_cons.mp hrest).1
  rw [show before ++ brace :: (inner ++ t :: behind) =
    (before ++ brace :: (inner ++ [t])) ++ behind by simp, openers_append, hpopped] at hmem
  rcases mem_openers hmem with hold | ⟨u, hu, hstart⟩
  · rcases mem_openers hold with hnil | ⟨u, hu, hstart⟩
    · cases hnil
    · have := hbefore u hu brace List.mem_cons_self
      simp only at hstart
      omega
  · have := hbehind u (by simp [hu])
    simp only at hstart
    omega

/-- A header whose brace is still open at the end of the script. -/
theorem locate_of_open {code : Bytes} {h : Header}
    (hheader : FirstHeader (significant (scan code)) h)
    (hopen : ⟨.code, h.brace.start⟩ ∈ openers [] (scan code)) :
    locate code = .error
      (.unclosed h.name (slice code h.paramsStart h.paramsStop) h.brace.start) := by
  have hh := firstHeader?_eq_some_iff.mpr hheader
  obtain ⟨before, body, hscan, _, hsome, _⟩ := closingBrace?_of_header hh
  rw [locate, hh]
  dsimp only
  cases hfound : closingBrace? 0 h.body with
  | none => rfl
  | some t =>
      obtain ⟨inner, behind, rfl, _, hpopped, _⟩ := hsome t hfound
      exact absurd hopen (not_mem_openers_of_popped hscan (scans_scan code).pairwise_start hpopped)

/-- The search for the end of the body agrees with the scanner's stack of open braces, template
substitutions included, on every source. `openers [] ts` is the stack with which the scanner goes on
behind the tokens `ts`, each entry with the offset of the token that has pushed it. Where the
constructor is located, the stack behind the closing brace is the stack in front of the opening
brace, and in between it holds the entry of the opening brace on top of that one. The body is
reported to be open exactly if there is a header and the entry of its brace is still on the stack at
the end of the source. -/
theorem locate_agrees_with_stack (code : Bytes) :
    (∀ before behind, scan code = before ++ behind →
      ∃ n, behind = scanFrom (Context.after {} before) n (code.drop n) ∧
        (openers [] before).map Opener.brace = (Context.after {} before).braces) ∧
    (∀ c, locate code = .ok c →
      c.opening < c.closing ∧
      ∃ before inner behind, scan code =
        before ++ c.openToken :: (inner ++ c.closeToken :: behind) ∧
        openers [] (before ++ c.openToken :: (inner ++ [c.closeToken])) = openers [] before ∧
        ∀ us, us <+: inner →
          ⟨.code, c.opening⟩ :: openers [] before <:+ openers [] (before ++ c.openToken :: us)) ∧
    (∀ name params opening, locate code = .error (.unclosed name params opening) ↔
      ∃ h, FirstHeader (significant (scan code)) h ∧ h.name = name ∧
        slice code h.paramsStart h.paramsStop = params ∧ h.brace.start = opening ∧
        ⟨.code, opening⟩ ∈ openers [] (scan code)) := by
  refine ⟨fun before behind hscan => ?_, fun c hc => ?_, fun name params opening => ?_⟩
  · have hscans := scans_scan code
    rw [hscan] at hscans
    obtain ⟨y, z, rfl, _, hz⟩ := hscans.cut
    refine ⟨y.length, ?_, map_brace_openers rfl before⟩
    rw [Nat.zero_add] at hz
    rw [List.drop_left, hz.scanFrom_eq]
  · unfold locate at hc
    split at hc
    · cases hc
    · rename_i h hh
      obtain ⟨before, body, hscan, hbrace, hsome, _⟩ := closingBrace?_of_header hh
      simp only at hc
      split at hc
      · rename_i t ht
        obtain rfl := Except.ok.inj hc
        obtain ⟨inner, behind, rfl, hclose, hpopped, hstays⟩ := hsome t ht
        have hopenToken : h.brace = ⟨.punct, h.brace.start, [Ascii.openBrace]⟩ := by
          rw [← (Token.isPunct_iff.mp hbrace).1, ← (Token.isPunct_iff.mp hbrace).2]
        have hcloseToken : t = ⟨.punct, t.start, [Ascii.closeBrace]⟩ := by
          rw [← (Token.isPunct_iff.mp hclose).1, ← (Token.isPunct_iff.mp hclose).2]
        have hpairwise := (scans_scan code).pairwise_start
        rw [hscan] at hpairwise
        have hlt := (List.pairwise_cons.mp (List.pairwise_append.mp hpairwise).2.1).1 t (by simp)
        refine ⟨hlt, before, inner, behind, ?_, ?_, ?_⟩
        · rw [Constructor.openToken, ← hopenToken, Constructor.closeToken, ← hcloseToken, hscan]
        · rwa [Constructor.openToken, ← hopenToken, Constructor.closeToken, ← hcloseToken]
        · rwa [Constructor.openToken, ← hopenToken]
      · cases hc
  · constructor
    · intro herror
      unfold locate at herror
      split at herror
      · cases herror
      · rename_i h hh
        simp only at herror
        split at herror
        · cases herror
        · rename_i hnone
          obtain ⟨before, body, _, _, _, hopen⟩ := closingBrace?_of_header hh
          obtain ⟨rfl, rfl, rfl⟩ := ConstructorFault.unclosed.inj (Except.error.inj herror)
          exact ⟨h, firstHeader?_eq_some_iff.mp hh, rfl, rfl, rfl,
            (hopen hnone).subset List.mem_cons_self⟩
    · rintro ⟨h, hfirst, rfl, rfl, rfl, hmem⟩
      exact locate_of_open hfirst hmem

/-- A script whose body holds a template literal with a brace in its text, a substitution with
braces of its own, and a closing brace that ends nothing but that substitution. -/
def nestedScript : Bytes :=
  [Ascii.closeBrace] ++ Bytes.lit " function f(props, el) " ++ [Ascii.openBrace] ++
    Bytes.lit "`{ ${ {} } }`"

/-- With one more brace the body of the nested script is closed, without it the entry of its brace
stays on the stack. -/
theorem locate_agrees_with_stack_nested :
    locate (nestedScript ++ [Ascii.closeBrace]) =
      .ok ⟨Bytes.lit "f", Bytes.lit "(props, el)", 24, 38⟩ ∧
    (∃ before inner behind,
      scan (nestedScript ++ [Ascii.closeBrace]) =
        before ++ ⟨.punct, 24, [Ascii.openBrace]⟩ ::
          (inner ++ ⟨.punct, 38, [Ascii.closeBrace]⟩ :: behind) ∧
      openers [] (before ++ ⟨.punct, 24, [Ascii.openBrace]⟩ ::
        (inner ++ [⟨.punct, 38, [Ascii.closeBrace]⟩])) = openers [] before) ∧
    ⟨.code, 24⟩ ∈ openers [] (scan nestedScript) ∧
    locate nestedScript = .error (.unclosed (Bytes.lit "f") (Bytes.lit "(props, el)") 24) := by
  have hclosed : locate (nestedScript ++ [Ascii.closeBrace]) =
      .ok ⟨Bytes.lit "f", Bytes.lit "(props, el)", 24, 38⟩ := by cbv
  obtain ⟨_, before, inner, behind, hscan, hpopped, _⟩ :=
    (locate_agrees_with_stack (nestedScript ++ [Ascii.closeBrace])).2.1 _ hclosed
  have hheader : firstHeader? (significant (scan nestedScript)) =
      some ⟨Bytes.lit "f", 12, 23, ⟨.punct, 24, [Ascii.openBrace]⟩,
        (significant (scan nestedScript)).drop 9⟩ := by cbv
  have hmem : ⟨.code, 24⟩ ∈ openers [] (scan nestedScript) := by decide +kernel
  have hopen :=
    (locate_agrees_with_stack nestedScript).2.2 (Bytes.lit "f") (Bytes.lit "(props, el)") 24
  exact ⟨hclosed, ⟨before, inner, behind, hscan, hpopped⟩, hmem,
    hopen.mpr ⟨_, firstHeader?_eq_some_iff.mp hheader, rfl, by decide +kernel, rfl, hmem⟩⟩

end ComponentCompiler.Script
