import ComponentCompiler.Proofs.ScriptUrl

/-!
# Expressions that are never closed

Whether an element leaves an expression open can be counted on its own children, without frames:
`openCount` goes up at a text that opens an expression and down at one that closes it. The stack of
frames is kept beside this count (`openTexts`), with the code and the line of each text, and
compiling a tree fails at the first element, in the order in which elements are finished, whose
count is not back at zero.
-/

namespace ComponentCompiler.Template

open Markup (Node)
open Render (Expr)

/-! ## Counting on a child list -/

/-- A text that starts with a brace and is no whole expression. -/
def isOpeningText (data : Bytes) : Bool :=
  (Text.trim data).head? == some Ascii.openBrace && !isBraced (Text.trim data)

/-- A text that ends with a brace and does not start with one. -/
def isClosingText (data : Bytes) : Bool :=
  (Text.trim data).getLast? == some Ascii.closeBrace &&
    (Text.trim data).head? != some Ascii.openBrace

/-- The number of open expressions behind a child, when `k` of them are open in front of it. A
closing text counts only while there is something to close. -/
def openAfter (k : Nat) : Node → Nat
  | .element .. => k
  | .text data _ =>
    if isOpeningText data then k + 1 else if isClosingText data then k - 1 else k

/-- The number of open expressions behind a list of children. -/
def openCount (k : Nat) (ns : List Node) : Nat := ns.foldl openAfter k

theorem openCount_concat (k : Nat) (ns : List Node) (n : Node) :
    openCount k (ns ++ [n]) = openAfter (openCount k ns) n := by
  simp [openCount]

/-- The code behind the brace of an opening text. -/
def openingCode (data : Bytes) : Bytes := Text.trim (Text.trim data).tail

/-- Among the children `ns`, the text `data` on line `line` opens the last expression that is still
open at the end: from there on the count never falls back to what it was in front of the text, and
in the end it is what it was right behind it. -/
def LastLeftOpenAt (ns : List Node) (data : Bytes) (line : Int) : Prop :=
  ∃ before after, ns = before ++ .text data line :: after ∧ isOpeningText data ∧
    (∀ front, front <+: after → openCount 0 before < openCount (openCount 0 before + 1) front) ∧
    openCount (openCount 0 before + 1) after = openCount 0 before + 1

/-- The text `data` opens the last expression that is still open, on whatever line it stands. -/
def LastLeftOpen (ns : List Node) (data : Bytes) : Prop := ∃ line, LastLeftOpenAt ns data line

/-! ## The texts that are open -/

/-- A text that opens an expression. -/
structure OpenText where
  data : Bytes
  line : Int

/-- The opening texts that are not closed behind a child, innermost first. -/
def openTextsAfter (texts : List OpenText) : Node → List OpenText
  | .element .. => texts
  | .text data line =>
    if isOpeningText data then ⟨data, line⟩ :: texts
    else if isClosingText data then texts.tail
    else texts

/-- The opening texts that are not closed behind a list of children, innermost first. -/
def openTexts (texts : List OpenText) (ns : List Node) : List OpenText :=
  ns.foldl openTextsAfter texts

theorem openTexts_concat (texts : List OpenText) (ns : List Node) (n : Node) :
    openTexts texts (ns ++ [n]) = openTextsAfter (openTexts texts ns) n := by
  simp [openTexts]

theorem length_openTextsAfter (texts : List OpenText) (n : Node) :
    (openTextsAfter texts n).length = openAfter texts.length n := by
  cases n with
  | element tag attrs children line => rfl
  | text data line =>
      rw [openTextsAfter, openAfter]
      by_cases hopening : isOpeningText data = true
      · rw [if_pos hopening, if_pos hopening, List.length_cons]
      · rw [if_neg hopening, if_neg hopening]
        by_cases hclosing : isClosingText data = true
        · rw [if_pos hclosing, if_pos hclosing, List.length_tail]
        · rw [if_neg hclosing, if_neg hclosing]

theorem length_openTexts (texts : List OpenText) (ns : List Node) :
    (openTexts texts ns).length = openCount texts.length ns := by
  induction ns generalizing texts with
  | nil => rfl
  | cons n ns ih =>
      have hrest := ih (openTextsAfter texts n)
      rw [length_openTextsAfter] at hrest
      exact hrest

/-- Where a text stands that is open behind the children `ns`, with `below` open outside it and
`above` inside it. -/
structure StandsOpen (ns : List Node) (above : List OpenText) (t : OpenText)
    (below : List OpenText) :
    Prop where
  exists_place :
  ∃ before after, ns = before ++ .text t.data t.line :: after ∧ isOpeningText t.data ∧
    openCount 0 before = below.length ∧
    (∀ front, front <+: after → below.length < openCount (below.length + 1) front) ∧
    openCount (below.length + 1) after = below.length + 1 + above.length

namespace StandsOpen

variable {ns : List Node} {above above' below : List OpenText} {t : OpenText} {n : Node}

/-- One more child that does not close the text. -/
theorem concat (h : StandsOpen ns above t below)
    (hn : openAfter (below.length + 1 + above.length) n = below.length + 1 + above'.length) :
    StandsOpen (ns ++ [n]) above' t below := by
  obtain ⟨before, after, rfl, hopening, hbefore, hfronts, hafter⟩ := h
  have hend : openCount (below.length + 1) (after ++ [n]) = below.length + 1 + above'.length := by
    rw [openCount_concat, hafter, hn]
  refine ⟨before, after ++ [n], by simp, hopening, hbefore, ?_, hend⟩
  intro front hfront
  rcases List.prefix_concat_iff.mp hfront with rfl | hfront
  · omega
  · exact hfronts front hfront

/-- A text that is opened by the last child. -/
theorem opened (hcount : openCount 0 ns = below.length) (ht : isOpeningText t.data) :
    StandsOpen (ns ++ [.text t.data t.line]) [] t below := by
  refine ⟨ns, [], rfl, ht, hcount, ?_, rfl⟩
  intro front hfront
  rw [List.prefix_nil.mp hfront]
  exact Nat.lt_succ_self _

end StandsOpen

/-- Every text that is open has its place among the children. -/
theorem standsOpen_of_openTexts {ns : List Node} {above below : List OpenText} {t : OpenText}
    (h : openTexts [] ns = above ++ t :: below) : StandsOpen ns above t below := by
  -- the last child decides whether the stack above the text grows, shrinks or stays
  induction ns using List.reverseRecOn generalizing above with
  | nil => simp [openTexts] at h
  | append_singleton ns n ih =>
      rw [openTexts_concat] at h
      cases n with
      | element tag attrs children line => exact (ih h).concat rfl
      | text last line =>
          rw [openTextsAfter] at h
          by_cases hopening : isOpeningText last = true
          · rw [if_pos hopening] at h
            cases above with
            | nil =>
                obtain ⟨rfl, hbelow⟩ := List.cons.inj h
                have hcount : openCount 0 ns = below.length := by
                  rw [← hbelow, length_openTexts, List.length_nil]
                exact .opened (t := ⟨last, line⟩) hcount hopening
            | cons top above =>
                obtain ⟨rfl, hstack⟩ := List.cons.inj h
                refine (ih hstack).concat ?_
                rw [openAfter, if_pos hopening, List.length_cons, Nat.add_assoc]
          · rw [if_neg hopening] at h
            by_cases hclosing : isClosingText last = true
            · rw [if_pos hclosing] at h
              cases hstack : openTexts [] ns with
              | nil => simp [hstack] at h
              | cons top texts =>
                  rw [hstack, List.tail_cons] at h
                  have hfull : openTexts [] ns = (top :: above) ++ t :: below := by
                    rw [hstack, h, List.cons_append]
                  refine (ih hfull).concat ?_
                  rw [openAfter, if_neg hopening, if_pos hclosing, List.length_cons]
                  omega
            · rw [if_neg hclosing] at h
              refine (ih h).concat ?_
              rw [openAfter, if_neg hopening, if_neg hclosing]

theorem lastLeftOpenAt_of_openTexts {ns : List Node} {t : OpenText} {texts : List OpenText}
    (h : openTexts [] ns = t :: texts) : LastLeftOpenAt ns t.data t.line := by
  have hstands : StandsOpen ns [] t texts := standsOpen_of_openTexts h
  obtain ⟨before, after, hns, hopening, hbefore, hfronts, hafter⟩ := hstands
  refine ⟨before, after, hns, hopening, ?_, ?_⟩
  · rw [hbefore]
    exact hfronts
  · rw [hbefore]
    exact hafter

/-! ## Frames beside open texts -/

/-- The code behind a brace, and the line on which it is reported. -/
structure Mark where
  code : Bytes
  line : Int

def OpenText.mark (t : OpenText) : Mark := ⟨openingCode t.data, t.line + (leading t.data).newlines⟩

/-- The marks of the open expressions, innermost first. -/
def Frames.marks (f : Frames) : List Mark := f.opened.map fun frame => ⟨frame.head, frame.line⟩

@[simp] theorem Frames.marks_add (f : Frames) (e : Expr) : (f.add e).marks = f.marks := by
  unfold Frames.add Frames.marks
  split
  · rfl
  · cases f.opened <;> rfl

theorem Frames.marks_push (f : Frames) (head : Bytes) (line : Int) :
    (f.push head line).marks = ⟨head, line⟩ :: f.marks := rfl

theorem Frames.marks_pop (f : Frames) (tail : Bytes) : (f.pop tail).marks = f.marks.tail := by
  unfold Frames.pop
  cases hopened : f.opened with
  | nil => simp [Frames.marks, hopened]
  | cons top rest =>
      rw [Frames.marks_add]
      simp [Frames.marks, hopened]

theorem marks_addText {f : Frames} {texts : List OpenText} (hf : f.marks = texts.map OpenText.mark)
    (data : Bytes) (line : Int) :
    (addText f data line).marks = (openTextsAfter texts (.text data line)).map OpenText.mark := by
  have hbraced : ∀ code, isBraced (Ascii.openBrace :: (code ++ [Ascii.closeBrace])) := by
    intro code
    simp [isBraced]
  have hdepth : f.depth = texts.length := by
    have hlength := congrArg List.length hf
    simpa [Frames.marks, Frames.depth] using hlength
  rw [openTextsAfter, isOpeningText, isClosingText]
  unfold addText
  simp only
  rcases textKind_cases (Text.trim_trim data) (0 < f.depth)
    with ⟨hkind, hdata⟩ | ⟨hkind, code, hdata⟩ |
    ⟨hkind, code, hdata, hlast⟩ | ⟨hkind, hopen, hhead, code, hdata⟩ | ⟨hkind, hdata, hhead, hlast⟩
  · rw [hkind]
    simp [hdata, hf]
  · rw [hkind]
    simp [hdata, hf, hbraced]
  · have hnot : isBraced (Ascii.openBrace :: code) = false := by
      simp [isBraced, hlast]
    rw [hkind]
    simp [hdata, hnot, Frames.marks_push, OpenText.mark, openingCode, hf]
  · have hlast : (Text.trim data).getLast? = some Ascii.closeBrace := by
      simp [hdata]
    rw [hkind]
    simp [hhead, hlast, Frames.marks_pop, hf]
  · rw [hkind]
    rcases hlast with hclosed | hlast
    · -- a closing text with nothing to close is kept as plain text
      obtain rfl : texts = [] := by
        have hzero : f.depth = 0 := by simpa using hclosed
        exact List.length_eq_zero_iff.mp (hdepth.symm.trans hzero)
      simp [hhead, hf]
    · simp [hhead, hlast, hf]

/-! ## Elements in the order in which they are finished -/

mutual

/-- The elements that are compiled with a node, each behind those below it. Nothing below a
reference to a sub-component is compiled. -/
def finishOrder (registry : Registry) : Node → List Node
  | .text .. => []
  | .element tag attrs children line =>
    finishOrderIn registry children ++ [.element tag attrs children line]

/-- The elements that are compiled with a list of children. -/
def finishOrderIn (registry : Registry) : List Node → List Node
  | [] => []
  | .text .. :: ns => finishOrderIn registry ns
  | .element tag attrs children line :: ns =>
    match registry.lookup? tag with
    | some _ => finishOrderIn registry ns
    | none => finishOrder registry (.element tag attrs children line) ++ finishOrderIn registry ns

end

theorem mem_finishOrderIn {registry : Registry} {m : Node} {ns : List Node} :
    m ∈ finishOrderIn registry ns ↔
      ∃ n ∈ ns, n.isElement ∧ registry.lookup? n.tag = none ∧ m ∈ finishOrder registry n := by
  induction ns with
  | nil => simp [finishOrderIn]
  | cons n ns ih =>
      cases n with
      | text data line => simp [finishOrderIn, ih, Node.isElement]
      | element tag attrs children line =>
          cases hkey : registry.lookup? tag with
          | some key => simp [finishOrderIn, hkey, ih, Node.tag]
          | none => simp [finishOrderIn, hkey, ih, Node.tag, Node.isElement]

/-- The elements in the list are those that compiling reaches. -/
theorem mem_finishOrder_iff {registry : Registry} {n m : Node} :
    m ∈ finishOrder registry n ↔ Rendered registry n m := by
  constructor
  · intro h
    induction hs : sizeOf n using Nat.strongRecOn generalizing n with
    | ind size ih =>
        cases n with
        | text data line => simp [finishOrder] at h
        | element tag attrs children line =>
            rw [finishOrder, List.mem_append, List.mem_singleton] at h
            rcases h with hbelow | rfl
            · obtain ⟨child, hchild, helement, hkey, hm⟩ := mem_finishOrderIn.mp hbelow
              have hlt : sizeOf child < size := by
                have hmem := List.sizeOf_lt_of_mem hchild
                rw [← hs, Node.element.sizeOf_spec]
                omega
              exact .child hchild helement hkey (ih (sizeOf child) hlt hm rfl)
            · exact .self rfl
  · intro h
    induction h with
    | @self n hn =>
        cases n with
        | text data line => cases hn
        | element tag attrs children line => simp [finishOrder]
    | child hmem helement hkey _ ih =>
        rw [finishOrder, List.mem_append]
        exact .inl (mem_finishOrderIn.mpr ⟨_, hmem, helement, hkey, ih⟩)

/-! ## The first element that leaves an expression open -/

/-- Whether an element leaves an expression open. -/
def leavesOpen (n : Node) : Bool := 0 < openCount 0 n.children

/-- The diagnostic `d` names the element `m` and the opening text `data`. -/
structure ReportsOpen (m : Node) (data : Bytes) (d : Diagnostic) : Prop where
  fault : d.fault = .unbalancedExpression
  tag : d.tag = m.tag
  detail : d.detail = Bytes.lit "expression " ++ [Ascii.openBrace] ++ openingCode data ++
    Bytes.lit " is never closed inside <" ++ m.tag ++ Bytes.lit ">"

/-- What compiling gives when `first` is the first element that leaves an expression open: a result
that satisfies `good` if there is none, and otherwise a report about a text of that element. -/
def Settles {α : Type} (good : α → Prop) (report : Node → Bytes → Diagnostic → Prop)
    (first : Option Node) (x : Except Diagnostic α) : Prop :=
  match first with
  | none => ∃ a, x = .ok a ∧ good a
  | some m => ∃ d data, x = .error d ∧ report m data d

/-- The diagnostic `d` reports the last open text of `m` on the line that is counted for it. -/
def ReportsLast (m : Node) (data : Bytes) (d : Diagnostic) : Prop :=
  ReportsOpen m data d ∧ ∃ line, LastLeftOpenAt m.children data line ∧
    d.line = line + (leading data).newlines

theorem Outcome.bind_result {α β : Type} (x : Outcome α) (g : α → Outcome β) :
    (x.bind g).result = x.result.bind fun a => (g a).result := by
  unfold Outcome.bind
  cases h : x.result with
  | error d => rfl
  | ok a => rfl

theorem Settles.bind {α β : Type} {good : α → Prop} {good' : β → Prop}
    {report : Node → Bytes → Diagnostic → Prop} {first second : Option Node}
    {x : Except Diagnostic α} {g : α → Except Diagnostic β} (hx : Settles good report first x)
    (hg : ∀ a, good a → Settles good' report second (g a)) :
    Settles good' report (first.or second) (x.bind g) := by
  cases first with
  | none =>
      obtain ⟨a, rfl, ha⟩ := hx
      exact hg a ha
  | some m =>
      obtain ⟨d, data, rfl, hreport⟩ := hx
      exact ⟨d, data, rfl, hreport⟩

/-- An error is about the first element that leaves an expression open. -/
theorem Settles.exists_of_error {α : Type} {good : α → Prop}
    {report : Node → Bytes → Diagnostic → Prop} {order : List Node} {x : Except Diagnostic α}
    {d : Diagnostic} (h : Settles good report (order.find? leavesOpen) x) (hd : x = .error d) :
    ∃ earlier m later data, order = earlier ++ m :: later ∧
      (∀ e ∈ earlier, openCount 0 e.children = 0) ∧ report m data d := by
  cases hfirst : order.find? leavesOpen with
  | none =>
      rw [hfirst] at h
      obtain ⟨a, rfl, _⟩ := h
      cases hd
  | some m =>
      rw [hfirst] at h
      obtain ⟨d', data, rfl, hreport⟩ := h
      obtain rfl := Except.error.inj hd
      obtain ⟨_, earlier, later, horder, hearlier⟩ := List.find?_eq_some_iff_append.mp hfirst
      refine ⟨earlier, m, later, data, horder, ?_, hreport⟩
      intro e he
      simpa [leavesOpen] using hearlier e he

/-- The end of an element: its own count decides. -/
theorem settles_finishElement {block tag : Bytes} {attrs : List Markup.Attribute}
    {children : List Node} {line : Int} {f : Frames}
    (hf : f.marks = (openTexts [] children).map OpenText.mark) :
    Settles (fun _ => True) ReportsLast
      (if leavesOpen (.element tag attrs children line) then some (.element tag attrs children line)
        else none)
      (finishElement block tag attrs f) := by
  have hcount : openCount 0 children = (openTexts [] children).length := by
    rw [length_openTexts, List.length_nil]
  unfold leavesOpen finishElement Frames.innermost?
  simp only [Node.children, hcount]
  cases htexts : openTexts [] children with
  | nil =>
      have hopened : f.opened = [] := by simpa [Frames.marks, htexts] using hf
      rw [hopened]
      exact ⟨_, rfl, trivial⟩
  | cons t texts =>
      cases hopened : f.opened with
      | nil => simp [Frames.marks, hopened, htexts] at hf
      | cons top rest =>
          have htop : Mark.mk top.head top.line = t.mark := by
            rw [Frames.marks, hopened, htexts, List.map_cons, List.map_cons] at hf
            exact (List.cons.inj hf).1
          obtain ⟨hhead, hline⟩ := Mark.mk.inj htop
          have hlast : LastLeftOpenAt children t.data t.line := lastLeftOpenAt_of_openTexts htexts
          exact ⟨_, t.data, rfl, ⟨rfl, rfl, by rw [unclosed, hhead]; rfl⟩, t.line, hlast, hline⟩

mutual

theorem settles_last_compileElement (registry : Registry) (block : Bytes) :
    ∀ n, Settles (fun _ => True) ReportsLast ((finishOrder registry n).find? leavesOpen)
      (compileElement registry block n).result
  | .text .. => ⟨_, rfl, trivial⟩
  | .element tag attrs children line => by
      rw [finishOrder, List.find?_append, compileElement, Outcome.bind_result]
      have hchildren := settles_last_compileChildren registry block children {} [] rfl
      refine hchildren.bind fun f hf => ?_
      rw [List.find?_singleton]
      exact settles_finishElement hf

theorem settles_last_compileChildren (registry : Registry) (block : Bytes) :
    ∀ (ns : List Node) (f : Frames) (texts : List OpenText), f.marks = texts.map OpenText.mark →
      Settles (fun f' : Frames => f'.marks = (openTexts texts ns).map OpenText.mark) ReportsLast
        ((finishOrderIn registry ns).find? leavesOpen) (compileChildren registry block ns f).result
  | [], f, texts, hf => ⟨f, rfl, hf⟩
  | .text data line :: ns, f, texts, hf => by
      rw [finishOrderIn, compileChildren]
      exact settles_last_compileChildren registry block ns _ _ (marks_addText hf data line)
  | .element tag attrs children line :: ns, f, texts, hf => by
      have hadd : ∀ e, (f.add e).marks = texts.map OpenText.mark := by
        intro e
        rw [Frames.marks_add, hf]
      rw [finishOrderIn, compileChildren]
      cases hkey : registry.lookup? tag with
      | some key =>
          simp only
          rw [Outcome.bind_result]
          exact settles_last_compileChildren registry block ns _ texts (hadd _)
      | none =>
          simp only
          rw [Outcome.bind_result, List.find?_append]
          have helement :=
            settles_last_compileElement registry block (.element tag attrs children line)
          exact helement.bind fun call _ =>
            settles_last_compileChildren registry block ns _ texts (hadd call)

end

theorem settles_compileElement (registry : Registry) (block : Bytes) (n : Node) :
    Settles (fun _ => True) (fun m data d => LastLeftOpen m.children data ∧ ReportsOpen m data d)
      ((finishOrder registry n).find? leavesOpen) (compileElement registry block n).result := by
  have hsettles := settles_last_compileElement registry block n
  cases hfirst : (finishOrder registry n).find? leavesOpen with
  | none =>
      rw [hfirst] at hsettles
      exact hsettles
  | some m =>
      rw [hfirst] at hsettles
      obtain ⟨d, data, hd, hreports, line, hlast, _⟩ := hsettles
      exact ⟨d, data, hd, ⟨line, hlast⟩, hreports⟩

/-- Compiling fails exactly if some element that it reaches leaves an expression open. The error is
then about the first such element, in the order in which elements are finished, and names the code
of the last text in it that is still open. -/
theorem compileElement_error_iff (registry : Registry) (block : Bytes) (n : Node) :
    ((∃ d, (compileElement registry block n).result = .error d) ↔
        ∃ m, Rendered registry n m ∧ 0 < openCount 0 m.children) ∧
      ∀ d, (compileElement registry block n).result = .error d →
        ∃ earlier m later data, finishOrder registry n = earlier ++ m :: later ∧
          (∀ e ∈ earlier, openCount 0 e.children = 0) ∧ 0 < openCount 0 m.children ∧
          LastLeftOpen m.children data ∧ ReportsOpen m data d := by
  have hsettles := settles_compileElement registry block n
  cases hfirst : (finishOrder registry n).find? leavesOpen with
  | none =>
      rw [hfirst] at hsettles
      obtain ⟨e, he, _⟩ := hsettles
      have hnone : ∀ m, Rendered registry n m → ¬0 < openCount 0 m.children := by
        intro m hm
        simpa [leavesOpen] using List.find?_eq_none.mp hfirst m (mem_finishOrder_iff.mpr hm)
      refine ⟨⟨?_, ?_⟩, ?_⟩
      · rintro ⟨d, hd⟩
        rw [he] at hd
        cases hd
      · rintro ⟨m, hm, hopen⟩
        exact absurd hopen (hnone m hm)
      · intro d hd
        rw [he] at hd
        cases hd
  | some m =>
      rw [hfirst] at hsettles
      obtain ⟨d, data, hd, hdata, hreports⟩ := hsettles
      obtain ⟨hopen, earlier, later, horder, hearlier⟩ := List.find?_eq_some_iff_append.mp hfirst
      have hopen' : 0 < openCount 0 m.children := by simpa [leavesOpen] using hopen
      have hm : Rendered registry n m := mem_finishOrder_iff.mp (by simp [horder])
      refine ⟨⟨fun _ => ⟨m, hm, hopen'⟩, fun _ => ⟨d, hd⟩⟩, ?_⟩
      intro d' hd'
      obtain rfl : d = d' := Except.error.inj (hd.symm.trans hd')
      refine ⟨earlier, m, later, data, horder, ?_, hopen', hdata, hreports⟩
      intro e he
      simpa [leavesOpen] using hearlier e he

/-- A list inside an open expression. The list closes one of the two expressions that it opens. -/
def sampleUnclosed : Node :=
  .element (Bytes.lit "div") []
    [.text (Ascii.openBrace :: Bytes.lit "outer(") 1,
      .element (Bytes.lit "ul") []
        [.text (Bytes.lit "\n " ++ [Ascii.openBrace] ++ Bytes.lit " first(") 2,
          .text (Ascii.openBrace :: Bytes.lit "second(") 4,
          .text (Bytes.lit ") " ++ [Ascii.closeBrace]) 5] 2] 1

theorem compileElement_error_nested :
    (compileElement {} [] sampleUnclosed).result =
        .error (unclosed [] (Bytes.lit "ul") ⟨Bytes.lit "first(", 3, []⟩) ∧
      ∃ m data, m ∈ finishOrder {} sampleUnclosed ∧ LastLeftOpen m.children data ∧
        ReportsOpen m data (unclosed [] (Bytes.lit "ul") ⟨Bytes.lit "first(", 3, []⟩) := by
  have hd : (compileElement {} [] sampleUnclosed).result =
      .error (unclosed [] (Bytes.lit "ul") ⟨Bytes.lit "first(", 3, []⟩) := by
    cbv
  obtain ⟨_, herror⟩ := compileElement_error_iff {} [] sampleUnclosed
  obtain ⟨earlier, m, later, data, horder, _, _, hlast, hreports⟩ := herror _ hd
  exact ⟨hd, m, data, by simp [horder], hlast, hreports⟩

end ComponentCompiler.Template
