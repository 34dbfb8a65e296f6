import ComponentCompiler.Proofs.SourceOrder
import Mathlib

/-!
# Script elements

Behind the start tag of a script nothing is markup before the end tag of the script. So a script
element holds nothing or one text, which begins where its start tag ends.
-/

namespace ComponentCompiler.Markup.Lex

variable {mode : Mode} {s : Bytes}

/-! ## Reading tokens one by one -/

theorem lexFrom_eq_cons {x : Lexeme} {xs : List Lexeme} (h : lexFrom mode s = x :: xs) :
    ∃ st, step? mode s = some st ∧ x = ⟨s.take st.size, st.token⟩ ∧
      xs = lexFrom st.mode (s.drop st.size) ∧
      (s.drop st.size).length < s.length := by
  rw [lexFrom] at h
  split at h
  · cases h
  · rename_i st hst
    split at h
    · rename_i hshorter
      obtain ⟨rfl, rfl⟩ := List.cons.inj h
      exact ⟨st, hst, rfl, rfl, hshorter⟩
    · cases h

/-- Tokens are read from one another's ends: those in front cover a front of the source, and the
others are the tokens of its rest. -/
theorem exists_lexFrom_of_append {pre rest : List Lexeme} (h : lexFrom mode s = pre ++ rest) :
    ∃ mode' s', rest = lexFrom mode' s' ∧ s = pre.flatMap (·.raw) ++ s' := by
  induction pre generalizing mode s with
  | nil => exact ⟨mode, s, h.symm, rfl⟩
  | cons x pre ih =>
      obtain ⟨st, _, rfl, hxs, _⟩ := lexFrom_eq_cons h
      obtain ⟨mode', s', hrest, hs'⟩ := ih hxs.symm
      refine ⟨mode', s', hrest, ?_⟩
      rw [List.flatMap_cons, List.append_assoc, ← hs', List.take_append_drop]

section

variable {st : Step} {name : Bytes} {attrs : List Attribute}

theorem token_endTagStep? {rest : Bytes} (h : endTagStep? s rest = some st) :
    st.token ≠ .startTag name attrs := by
  unfold endTagStep? at h
  split at h
  · cases h
    exact Token.noConfusion
  · split at h
    · obtain ⟨t, _, rfl⟩ := Option.map_eq_some_iff.mp h
      exact Token.noConfusion
    · cases h
      exact Token.noConfusion

theorem token_declarationStep (rest : Bytes) :
    (declarationStep rest).token ≠ .startTag name attrs := by
  unfold declarationStep
  split
  · exact Token.noConfusion
  · dsimp only
    split <;> exact Token.noConfusion

/-- Start tags are read by nothing else than the step at a start tag. -/
theorem startTagStep?_of_contentStep? (h : contentStep? s = some st)
    (htoken : st.token = .startTag name attrs) :
    startTagStep? s = some st := by
  unfold contentStep? at h
  split at h
  · cases h
  split at h
  · split at h
    · cases h
    split at h
    · exact absurd htoken (token_endTagStep? h)
    split at h
    · cases h
      exact absurd htoken (token_declarationStep _)
    split at h
    · cases h
      cases htoken
    · exact h
  · cases h
    cases htoken

/-- A start tag decides how its content is read. -/
theorem mode_of_startTag (h : step? mode s = some st) (htoken : st.token = .startTag name attrs) :
    st.mode = if rawElements.contains name then .raw name else .content := by
  have hstart : startTagStep? s = some st := by
    unfold step? at h
    split at h
    · exact startTagStep?_of_contentStep? h htoken
    · dsimp only at h
      split at h
      · exact startTagStep?_of_contentStep? h htoken
      · cases h
        cases htoken
  obtain ⟨t, _, rfl⟩ := Option.map_eq_some_iff.mp hstart
  dsimp only at htoken ⊢
  split at htoken
  · cases htoken
  · cases htoken
    rfl

end

/-! ## Where a script ends -/

/-- At the end of the source, or in front of the end tag of a script. -/
def AtScriptEnd (s : Bytes) : Prop :=
  s = [] ∨ ∃ rest, s = Ascii.less :: Ascii.slash :: rest ∧ endsTag scriptName rest

theorem atScriptEnd_drop (settled : Nat) (state : ScriptState) (s : Bytes) :
    AtScriptEnd (s.drop (scriptSize settled state s)) := by
  have hnext : ∀ (c : UInt8) (rest : Bytes) (n : Nat), AtScriptEnd (rest.drop n) →
      AtScriptEnd ((c :: rest).drop (1 + n)) := by
    intro c rest n h
    rwa [Nat.add_comm, List.drop_succ_cons]
  have hend : ∀ rest : Bytes, rest.head? = some Ascii.slash → endsTag scriptName rest.tail →
      AtScriptEnd (Ascii.less :: rest) := by
    intro rest hslash h
    obtain ⟨more, rfl⟩ := List.head?_eq_some_iff.mp hslash
    exact .inr ⟨more, rfl, h⟩
  fun_induction scriptSize settled state s with
  | case1 => exact .inl rfl
  | case3 rest h => exact hend rest h.1 h.2
  | case7 dashes rest h => exact .inl (List.head?_eq_none_iff.mp h)
  | case8 dashes rest h hslash => exact hend rest hslash h
  | _ => exact hnext _ _ _ ‹_›

theorem isLetter_of_toLower {c : UInt8} (h : Ascii.isLetter (Ascii.toLower c)) :
    Ascii.isLetter c := by
  unfold Ascii.toLower at h
  split at h
  · rename_i hupper
    simp [Ascii.isLetter, hupper]
  · exact h

theorem isNameByte_of_isLetter {c : UInt8} (h : Ascii.isLetter c) : isNameByte c := by
  have hne : ∀ b : UInt8, Ascii.isLetter b = false → c ≠ b := by
    rintro b hb rfl
    rw [h] at hb
    cases hb
  simp [isNameByte, isTagSpace, hne Ascii.space (by decide), hne Ascii.newline (by decide),
    hne Ascii.carriageReturn (by decide), hne Ascii.tab (by decide), hne Ascii.formFeed (by decide),
    hne Ascii.slash (by decide), hne Ascii.greater (by decide)]

/-- What ends a tag named `script` begins with that name, in either case. -/
theorem takeWhile_isNameByte_of_endsTag {rest : Bytes} (h : endsTag scriptName rest) :
    (∃ c, rest.head? = some c ∧ Ascii.isLetter c) ∧
      Bytes.lowerAscii (rest.takeWhile isNameByte) = scriptName := by
  obtain ⟨hname, hbehind⟩ := Bool.and_eq_true_iff.mp h
  obtain ⟨d, hd, hmark⟩ := (Option.any_eq_true _ _).mp hbehind
  obtain ⟨more, hmore⟩ := List.head?_eq_some_iff.mp hd
  have hlower : Bytes.lowerAscii (rest.take scriptName.length) = scriptName := eq_of_beq hname
  have hrest := List.take_append_drop scriptName.length rest
  rw [hmore] at hrest
  generalize rest.take scriptName.length = front at hlower hrest
  subst hrest
  have hletters : ∀ c ∈ front, Ascii.isLetter c := by
    intro c hc
    have hmem : Ascii.toLower c ∈ scriptName := hlower ▸ List.mem_map_of_mem hc
    have hscript : scriptName.all Ascii.isLetter := by decide
    exact isLetter_of_toLower (List.all_eq_true.mp hscript _ hmem)
  have hstop : ¬isNameByte d := by
    intro hbyte
    simp only [isNameByte, Bool.and_eq_true, Bool.not_eq_true', bne_iff_ne] at hbyte
    simp [hbyte.1.1, hbyte.1.2, hbyte.2] at hmark
  constructor
  · cases front with
    | nil => cases hlower
    | cons c front => exact ⟨c, rfl, hletters c List.mem_cons_self⟩
  · rw [Bytes.takeWhile_append_cons (fun c hc => isNameByte_of_isLetter (hletters c hc))
      (by simpa using hstop),
      hlower]

theorem token_of_atScriptEnd (h : AtScriptEnd s) {st : Step} (hst : contentStep? s = some st) :
    st.token = .endTag scriptName := by
  rcases h with rfl | ⟨rest, rfl, hends⟩
  · cases hst
  · obtain ⟨⟨c, hc, hletter⟩, hname⟩ := takeWhile_isNameByte_of_endsTag hends
    obtain ⟨more, rfl⟩ := List.head?_eq_some_iff.mp hc
    have hstep : contentStep? (Ascii.less :: Ascii.slash :: c :: more) =
        endTagStep? (Ascii.less :: Ascii.slash :: c :: more) (c :: more) := rfl
    rw [hstep, endTagStep?, if_pos hletter] at hst
    obtain ⟨t, ht, rfl⟩ := Option.map_eq_some_iff.mp hst
    obtain ⟨a, _, rfl⟩ := Option.map_eq_some_iff.mp ht
    exact congrArg Token.endTag hname

/-- The token of the text of a script, if it has one. -/
def scriptBody (written : Option Bytes) : List Lexeme :=
  (written.map fun w => ⟨w, .text (rawData scriptName w)⟩).toList

/-- The text of a script is one token, and what follows it is the end tag of the script. -/
theorem lexFrom_script (s : Bytes) :
    ∃ written rest, lexFrom (.raw scriptName) s = scriptBody written ++ rest ∧
      ∀ x ∈ rest.head?, x.token = .endTag scriptName := by
  have hend : ∀ {mode s x}, AtScriptEnd s → step? mode s = contentStep? s →
      x ∈ (lexFrom mode s).head? → x.token = .endTag scriptName := by
    intro mode s x h hcontent hx
    obtain ⟨more, hmore⟩ := List.head?_eq_some_iff.mp hx
    obtain ⟨st, hst, rfl, _, _⟩ := lexFrom_eq_cons hmore
    exact token_of_atScriptEnd h (hcontent ▸ hst)
  have hsize : rawSize scriptName s = scriptSize 0 .plain s := by
    rw [rawSize, if_neg (by decide), if_pos rfl]
  have hdrop := atScriptEnd_drop 0 .plain s
  rw [← hsize] at hdrop
  by_cases hzero : rawSize scriptName s = 0
  · rw [hzero, List.drop_zero] at hdrop
    refine ⟨none, _, rfl, fun x hx => hend hdrop ?_ hx⟩
    rw [step?, if_pos hzero]
  · cases htokens : lexFrom (.raw scriptName) s with
    | nil => exact ⟨none, [], rfl, by simp⟩
    | cons x xs =>
        obtain ⟨st, hst, rfl, rfl, _⟩ := lexFrom_eq_cons htokens
        rw [step?, if_neg hzero] at hst
        cases hst
        exact ⟨some _, _, rfl, fun x hx => hend hdrop rfl hx⟩

/-! ## Scripts among the tokens -/

/-- Tokens in which a start tag of a script is followed by the text of the script, if it has one,
and then by its end tag, unless they end there. -/
inductive ScriptsWhole : List Lexeme → Prop
  | nil : ScriptsWhole []
  | other {x : Lexeme} {xs : List Lexeme} (hx : ∀ attrs, x.token ≠ .startTag scriptName attrs)
      (h : ScriptsWhole xs) : ScriptsWhole (x :: xs)
  | unclosed (start : Bytes) (attrs : List Attribute) (written : Option Bytes) :
      ScriptsWhole (⟨start, .startTag scriptName attrs⟩ :: scriptBody written)
  | closed (start : Bytes) (attrs : List Attribute) (written : Option Bytes)
    (stop : Bytes) {xs : List Lexeme}
      (h : ScriptsWhole xs) :
      ScriptsWhole (⟨start, .startTag scriptName attrs⟩ ::
        (scriptBody written ++ ⟨stop, .endTag scriptName⟩ :: xs))

theorem scriptsWhole_lexFrom (mode : Mode) (s : Bytes) : ScriptsWhole (lexFrom mode s) := by
  induction hlength : s.length using Nat.strongRecOn generalizing mode s with
  | ind length ih =>
      cases htokens : lexFrom mode s with
      | nil => exact .nil
      | cons x xs =>
          obtain ⟨st, hst, rfl, rfl, hshorter⟩ := lexFrom_eq_cons htokens
          by_cases hscript : ∃ attrs, st.token = .startTag scriptName attrs
          · obtain ⟨attrs, hattrs⟩ := hscript
            have hmode : st.mode = .raw scriptName := mode_of_startTag hst hattrs
            obtain ⟨written, rest, hbody, hrest⟩ := lexFrom_script (s.drop st.size)
            rw [hmode, hbody, hattrs]
            cases rest with
            | nil =>
                rw [List.append_nil]
                exact .unclosed _ attrs written
            | cons y ys =>
                -- the tokens behind the end tag are those of a shorter source
                have hends : y = ⟨y.raw, .endTag scriptName⟩ := by rw [← hrest y rfl]
                rw [List.append_cons] at hbody
                obtain ⟨mode', s', rfl, hs'⟩ := exists_lexFrom_of_append hbody
                rw [hends]
                refine .closed _ attrs written _ (ih s'.length ?_ mode' s' rfl)
                have hsplit := congrArg List.length hs'
                rw [List.length_append] at hsplit
                omega
          · exact .other (fun attrs hattrs => hscript ⟨attrs, hattrs⟩)
              (ih _ (hlength ▸ hshorter) _ _ rfl)

end ComponentCompiler.Markup.Lex

namespace ComponentCompiler.Markup

open ComponentCompiler.Markup.Lex (scriptName scriptBody rawData ScriptsWhole)

/-! ## Scripts in a forest -/

namespace Builder

variable {P : Node → Prop} {b : Builder}

/-- Every finished node satisfies `P`, and so will every open element, whatever comes into it. -/
structure Holds (P : Node → Prop) (b : Builder) : Prop where
  children : ∀ n ∈ b.children, P n
  around :
    ∀ e ∈ b.around, (∀ children, P (.element e.tag e.attrs children e.line)) ∧ ∀ n ∈ e.before, P n

theorem Holds.add (h : b.Holds P) {n : Node} (hn : P n) : (b.add n).Holds P :=
  ⟨List.forall_mem_cons.mpr ⟨hn, h.children⟩, h.around⟩

theorem Holds.openElement (h : b.Holds P) {tag : Bytes} {attrs : List Attribute} {line : Int}
    (hopen : ∀ children, P (.element tag attrs children line)) :
    (b.openElement tag attrs line).Holds P :=
  ⟨List.forall_mem_nil _, List.forall_mem_cons.mpr ⟨⟨hopen, h.children⟩, h.around⟩⟩

theorem Holds.close {children : List Node} {e : OpenElement} {es : List OpenElement}
    (h : Holds P ⟨children, e :: es⟩) : Holds P ⟨OpenElement.close e children, es⟩ := by
  obtain ⟨⟨hopen, hbefore⟩, hrest⟩ := List.forall_mem_cons.mp h.around
  exact ⟨List.forall_mem_cons.mpr ⟨hopen _, hbefore⟩, hrest⟩

theorem Holds.closeTag (h : b.Holds P) (name : Bytes) : (b.closeTag name).Holds P := by
  have hthrough : ∀ {children around}, Holds P ⟨children, around⟩ →
      (closeThrough name children around).Holds P := by
    intro children around
    induction around generalizing children with
    | nil => exact id
    | cons e es ih =>
        intro h
        rw [closeThrough]
        split
        · exact h.close
        · exact ih h.close
  rw [Builder.closeTag]
  split
  · exact hthrough h
  · exact h

theorem Holds.finish (h : b.Holds P) : ∀ n ∈ b.finish, P n := by
  have hall :
      ∀ {children around}, Holds P ⟨children, around⟩ → ∀ n ∈ closeAll children around, P n := by
    intro children around
    induction around generalizing children with
    | nil => exact Holds.children
    | cons e es ih => exact fun h => ih h.close
  intro n hn
  exact hall h n (List.mem_reverse.mp hn)

end Builder

/-- The children of a script whose start tag ends on the given line. -/
def scriptChildren (written : Option Bytes) (line : Int) : List Node :=
  (written.map fun w => .text (rawData scriptName w) line).toList

/-- If `n` is a script element, it has been read from `xs`: from a start tag and the text behind it,
if there is one, or from a tag that closes itself. -/
def ReadFrom (xs : List Lexeme) (n : Node) : Prop :=
  n.tag = scriptName → ∃ pre start written rest, xs = pre ++ start :: (scriptBody written ++ rest) ∧
    (start.token = .startTag scriptName n.attrs ∨
      start.token = .selfClosingTag scriptName n.attrs ∧ written = none) ∧
    n = .element scriptName n.attrs (scriptChildren written (endLine (pre ++ [start])))
      (endLine pre)

theorem endLine_append (xs ys : List Lexeme) : endLine (xs ++ ys) = endLine xs + newlinesOf ys := by
  rw [endLine, endLine, newlinesOf_append]
  push_cast
  ring

namespace Builder

variable {b : Builder}

theorem lexemes_cons (b : Builder) (pre : List Lexeme) (x : Lexeme) (xs : List Lexeme) :
    b.lexemes (endLine pre) (x :: xs) = (b.token (endLine pre) x.token).lexemes
      (endLine (pre ++ [x])) xs := by
  rw [lexemes, endLine_append]
  rfl

/-- The start tag of a script opens an element, and the text behind it is a child of
that element. -/
theorem lexemes_script (b : Builder) (pre : List Lexeme) (start : Bytes) (attrs : List Attribute)
    (written : Option Bytes) (xs : List Lexeme) :
    b.lexemes (endLine pre) (⟨start, .startTag scriptName attrs⟩ :: (scriptBody written ++ xs)) =
      lexemes ⟨(scriptChildren written
        (endLine (pre ++ [⟨start, .startTag scriptName attrs⟩]))).reverse,
          (b.openElement scriptName attrs (endLine pre)).around⟩
        (endLine (pre ++ ⟨start, .startTag scriptName attrs⟩ :: scriptBody written)) xs := by
  have hopen : b.token (endLine pre) (.startTag scriptName attrs) =
      b.openElement scriptName attrs (endLine pre) := by
    rw [token, if_neg (by decide)]
  rw [lexemes_cons, hopen, lexemes_append, ← endLine_append, ← List.append_cons]
  cases written <;> rfl

variable {xs pre ys : List Lexeme}

theorem Holds.token_other (h : b.Holds (ReadFrom xs)) {x : Lexeme} (hxs : xs = pre ++ x :: ys)
    (hx : ∀ attrs, x.token ≠ .startTag scriptName attrs) :
    (b.token (endLine pre) x.token).Holds (ReadFrom xs) := by
  have helement : ∀ {tag attrs children line}, tag ≠ scriptName →
      ReadFrom xs (.element tag attrs children line) := fun htag heq => absurd heq htag
  cases hx' : x.token with
  | text data => exact h.add fun htag => by cases htag
  | startTag tag attrs =>
      have htag : tag ≠ scriptName := by
        rintro rfl
        exact hx attrs hx'
      rw [token]
      split
      · exact h.add (helement htag)
      · exact h.openElement fun _ => helement htag
  | selfClosingTag tag attrs =>
      refine h.add fun htag => ?_
      obtain rfl : tag = scriptName := htag
      exact ⟨pre, x, none, ys, hxs, .inr ⟨hx', rfl⟩, rfl⟩
  | endTag name => exact h.closeTag name
  | comment => exact h
  | doctype => exact h

/-- However the tokens in front were read, the scripts of whole tokens are read from them. -/
theorem readFrom_of_scriptsWhole (hys : ScriptsWhole ys) (hxs : xs = pre ++ ys)
    (hb : b.Holds (ReadFrom xs)) :
    ∀ n ∈ (b.lexemes (endLine pre) ys).finish, ReadFrom xs n := by
  induction hys generalizing b pre with
  | nil => exact hb.finish
  | @other x ys hx _ ih =>
      rw [lexemes_cons]
      exact ih (by rw [hxs, List.append_cons]) (hb.token_other hxs hx)
  | unclosed start attrs written =>
      -- the end of the source closes the element as its end tag would
      have hnode : ReadFrom xs (.element scriptName attrs
          (scriptChildren written (endLine (pre ++ [⟨start, .startTag scriptName attrs⟩])))
            (endLine pre)) :=
        fun _ => ⟨pre, _, written, [], by rw [hxs, List.append_nil], .inl rfl, rfl⟩
      have hread := lexemes_script b pre start attrs written []
      rw [List.append_nil] at hread
      rw [hread]
      have hadd := (hb.add hnode).finish
      rwa [← List.reverse_reverse (scriptChildren written _)] at hadd
  | closed start attrs written stop _ ih =>
      have hnode : ReadFrom xs (.element scriptName attrs
          (scriptChildren written (endLine (pre ++ [⟨start, .startTag scriptName attrs⟩])))
            (endLine pre)) :=
        fun _ => ⟨pre, _, written, _, hxs, .inl rfl, rfl⟩
      rw [lexemes_script, lexemes_cons, token, closeTag_openElement, List.reverse_reverse]
      exact ih (by rw [hxs]; simp) (hb.add hnode)

end Builder

theorem readFrom_parse (src : Bytes) : ∀ n ∈ parse src, ReadFrom (lex src) n := by
  have hstart : Builder.Holds (ReadFrom (lex src)) {} :=
    ⟨List.forall_mem_nil _, List.forall_mem_nil _⟩
  have hfront : lex src = [] ++ lex src := rfl
  exact Builder.readFrom_of_scriptsWhole (Lex.scriptsWhole_lexFrom .content src) hfront hstart

/-- The script element `n` of `src` has the start tag `start` behind the tokens `pre`, and then
`written` as its only text. -/
structure ScriptAt (src : Bytes) (pre : List Lexeme) (start : Lexeme) (written : Bytes) (n : Node) :
    Prop where
  tokens : ∃ rest, lex src = pre ++ start :: ⟨written, .text n.textContent⟩ :: rest
  tag : start.token = .startTag scriptName n.attrs
  text_eq : n.textContent = rawData scriptName written
  node_eq :
  n = .element scriptName n.attrs [.text n.textContent (endLine (pre ++ [start]))] (endLine pre)

theorem exists_scriptAt {src : Bytes} {n : Node} (hn : n ∈ parse src) (htag : n.tag = scriptName)
    (htext : n.textContent ≠ []) : ∃ pre start written, ScriptAt src pre start written n := by
  obtain ⟨pre, start, written, rest, htokens, hstart, hnode⟩ := readFrom_parse src n hn htag
  cases written with
  | none =>
      rw [hnode] at htext
      exact absurd rfl htext
  | some w =>
      have hdata : n.textContent = rawData scriptName w := by
        rw [hnode]
        exact List.append_nil _
      refine ⟨pre, start, w, ⟨rest, ?_⟩, ?_, hdata, ?_⟩
      · rw [htokens, hdata]
        rfl
      · exact hstart.resolve_right fun h => by cases h.2
      · rw [hdata]
        exact hnode

section

variable {src : Bytes} {pre : List Lexeme} {start : Lexeme} {written : Bytes} {n : Node}

theorem ScriptAt.line_eq (h : ScriptAt src pre start written n) : n.line = endLine pre := by
  rw [h.node_eq]
  rfl

/-- The text of a script stands behind its start tag in the source. -/
theorem ScriptAt.exists_source_eq (h : ScriptAt src pre start written n) :
    ∃ rest, src = pre.flatMap (·.raw) ++ (start.raw ++ (written ++ rest)) := by
  obtain ⟨more, htokens⟩ := h.tokens
  rw [List.append_cons, List.append_cons] at htokens
  obtain ⟨_, rest, _, hsrc⟩ := Lex.exists_lexFrom_of_append htokens
  exact ⟨rest, by simpa using hsrc⟩

end

end ComponentCompiler.Markup
