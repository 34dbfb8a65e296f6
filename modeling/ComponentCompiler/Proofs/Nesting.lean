import ComponentCompiler.Markup.Forest
import Mathlib

/-!
# Markup trees and well-nested tokens

A forest can be written down as tokens in which every element is closed by its own end tag. Building
such tokens adds exactly the nodes they were written from, whatever is open around them, so building
any tokens at all, writing the forest down and building it again gives the same forest.
-/

namespace ComponentCompiler.Markup

namespace Node

/-! ## Writing nodes down -/

mutual

/-- The tokens of a node. A void element is its start tag alone. -/
def tokens : Node → List Token
  | element tag attrs children _ =>
    if isVoid tag then [.startTag tag attrs]
    else .startTag tag attrs :: (tokensAll children ++ [.endTag tag])
  | text data _ => [.text data]

/-- The tokens of a list of nodes. -/
def tokensAll : List Node → List Token
  | [] => []
  | n :: ns => tokens n ++ tokensAll ns

end

mutual

/-- A node with all lines forgotten. -/
def unlined : Node → Node
  | element tag attrs children _ => element tag attrs (unlinedAll children) 0
  | text data _ => text data 0

/-- A list of nodes with all lines forgotten. -/
def unlinedAll : List Node → List Node
  | [] => []
  | n :: ns => unlined n :: unlinedAll ns

end

theorem unlinedAll_eq_map (ns : List Node) : unlinedAll ns = ns.map unlined := by
  induction ns with
  | nil => rfl
  | cons n ns ih => rw [unlinedAll, ih, List.map_cons]

@[simp] theorem unlinedAll_singleton (n : Node) : unlinedAll [n] = [n.unlined] := rfl

mutual

theorem tokens_unlined (n : Node) : n.unlined.tokens = n.tokens := by
  cases n with
  | element tag attrs children line => rw [unlined, tokens, tokens, tokensAll_unlinedAll children]
  | text data line => rfl

theorem tokensAll_unlinedAll (ns : List Node) : tokensAll (unlinedAll ns) = tokensAll ns := by
  cases ns with
  | nil => rfl
  | cons n ns => rw [unlinedAll, tokensAll, tokensAll, tokens_unlined n, tokensAll_unlinedAll ns]

end

/-- No void element in the node has children. -/
inductive VoidsEmpty : Node → Prop
  | element {tag : Bytes} {attrs : List Attribute} {children : List Node} {line : Int}
      (hvoid : isVoid tag → children = []) (hchildren : ∀ n ∈ children, VoidsEmpty n) :
      VoidsEmpty (element tag attrs children line)
  | text (data : Bytes) (line : Int) : VoidsEmpty (text data line)

end Node

/-- Tokens in which every element that is not void is closed by its own end tag, and nothing
else is closed. -/
inductive WellNested : List Token → Prop
  | nil : WellNested []
  | text (data : Bytes) {ts : List Token} (h : WellNested ts) : WellNested (.text data :: ts)
  | void {tag : Bytes} (attrs : List Attribute) {ts : List Token} (hvoid : isVoid tag)
      (h : WellNested ts) : WellNested (.startTag tag attrs :: ts)
  | element {tag : Bytes} (attrs : List Attribute) {inner ts : List Token}
    (hvoid : isVoid tag = false)
      (hinner : WellNested inner) (h : WellNested ts) :
      WellNested (.startTag tag attrs :: (inner ++ .endTag tag :: ts))

namespace WellNested

variable {ts us : List Token}

theorem append (hts : WellNested ts) (hus : WellNested us) : WellNested (ts ++ us) := by
  induction hts with
  | nil => exact hus
  | text data _ ih => exact .text data ih
  | void attrs hvoid _ ih => exact .void attrs hvoid ih
  | element attrs hvoid hinner _ _ ih =>
      rw [List.cons_append, List.append_assoc, List.cons_append]
      exact .element attrs hvoid hinner ih

mutual

theorem tokens (n : Node) : WellNested n.tokens := by
  cases n with
  | element tag attrs children line =>
      rw [Node.tokens]
      cases hvoid : isVoid tag with
      | true => exact .void attrs hvoid .nil
      | false => exact .element attrs hvoid (tokensAll children) .nil
  | text data line => exact .text data .nil

theorem tokensAll (ns : List Node) : WellNested (Node.tokensAll ns) := by
  cases ns with
  | nil => exact .nil
  | cons n ns => exact (tokens n).append (tokensAll ns)

end

/-- Well-nested tokens are those of a forest. -/
theorem exists_nodes (h : WellNested ts) :
    ∃ ns, (∀ n ∈ ns, n.VoidsEmpty) ∧ Node.tokensAll ns = ts := by
  induction h with
  | nil => exact ⟨[], by simp, rfl⟩
  | text data _ ih =>
      obtain ⟨ns, hns, rfl⟩ := ih
      exact ⟨.text data 0 :: ns, List.forall_mem_cons.mpr ⟨.text data 0, hns⟩, rfl⟩
  | @void tag attrs _ hvoid _ ih =>
      obtain ⟨ns, hns, rfl⟩ := ih
      refine ⟨.element tag attrs [] 0 :: ns, ?_, ?_⟩
      · exact List.forall_mem_cons.mpr ⟨.element (fun _ => rfl) (by simp), hns⟩
      · rw [Node.tokensAll, Node.tokens, if_pos hvoid]
        rfl
  | @element tag attrs _ _ hvoid _ _ ihinner ih =>
      obtain ⟨children, hchildren, rfl⟩ := ihinner
      obtain ⟨ns, hns, rfl⟩ := ih
      refine ⟨.element tag attrs children 0 :: ns, ?_, ?_⟩
      · exact List.forall_mem_cons.mpr ⟨.element (by simp [hvoid]) hchildren, hns⟩
      · rw [Node.tokensAll, Node.tokens, if_neg (by simp [hvoid])]
        simp

end WellNested

namespace Builder

/-! ## What building keeps -/

/-- Nothing that is finished holds a void element with children, and no void element is open. -/
structure Sound (b : Builder) : Prop where
  children : ∀ n ∈ b.children, n.VoidsEmpty
  around : ∀ e ∈ b.around, isVoid e.tag = false ∧ ∀ n ∈ e.before, n.VoidsEmpty

theorem voidsEmpty_close {e : OpenElement} {children : List Node} (htag : isVoid e.tag = false)
    (hbefore : ∀ n ∈ e.before, n.VoidsEmpty) (hchildren : ∀ n ∈ children, n.VoidsEmpty) :
    ∀ n ∈ OpenElement.close e children, n.VoidsEmpty := by
  refine List.forall_mem_cons.mpr ⟨.element (by simp [htag]) ?_, hbefore⟩
  intro n hn
  exact hchildren n (List.mem_reverse.mp hn)

theorem sound_closeThrough (name : Bytes) {children : List Node} {around : List OpenElement}
    (h : Sound ⟨children, around⟩) : Sound (closeThrough name children around) := by
  induction around generalizing children with
  | nil => exact h
  | cons e es ih =>
      obtain ⟨⟨htag, hbefore⟩, hrest⟩ := List.forall_mem_cons.mp h.around
      have hclosed : Sound ⟨OpenElement.close e children, es⟩ :=
        ⟨voidsEmpty_close htag hbefore h.children, hrest⟩
      rw [closeThrough]
      split
      · exact hclosed
      · exact ih hclosed

theorem voidsEmpty_closeAll {children : List Node} {around : List OpenElement}
    (h : Sound ⟨children, around⟩) : ∀ n ∈ closeAll children around, n.VoidsEmpty := by
  induction around generalizing children with
  | nil => exact h.children
  | cons e es ih =>
      obtain ⟨⟨htag, hbefore⟩, hrest⟩ := List.forall_mem_cons.mp h.around
      exact ih ⟨voidsEmpty_close htag hbefore h.children, hrest⟩

variable {b : Builder}

theorem Sound.add (h : b.Sound) {n : Node} (hn : n.VoidsEmpty) : (b.add n).Sound :=
  ⟨List.forall_mem_cons.mpr ⟨hn, h.children⟩, h.around⟩

theorem Sound.openElement (h : b.Sound) {tag : Bytes} (htag : isVoid tag = false)
    (attrs : List Attribute) (line : Int) :
    (b.openElement tag attrs line).Sound :=
  ⟨by simp [Builder.openElement], List.forall_mem_cons.mpr ⟨⟨htag, h.children⟩, h.around⟩⟩

theorem Sound.token (h : b.Sound) (line : Int) (t : Token) : (b.token line t).Sound := by
  cases t with
  | text data => exact h.add (.text data line)
  | startTag tag attrs =>
      rw [Builder.token]
      cases hvoid : isVoid tag with
      | true => exact h.add (.element (fun _ => rfl) (by simp))
      | false => exact h.openElement hvoid attrs line
  | selfClosingTag tag attrs => exact h.add (.element (fun _ => rfl) (by simp))
  | endTag name =>
      rw [Builder.token, closeTag]
      split
      · exact sound_closeThrough name h
      · exact h
  | comment => exact h
  | doctype => exact h

theorem Sound.lexemes (h : b.Sound) (line : Int) (xs : List Lexeme) :
    (b.lexemes line xs).Sound := by
  induction xs generalizing b line with
  | nil => exact h
  | cons x xs ih => exact ih (h.token line x.token) _

theorem Sound.finish (h : b.Sound) : ∀ n ∈ b.finish, n.VoidsEmpty := by
  intro n hn
  exact voidsEmpty_closeAll h n (List.mem_reverse.mp hn)

/-! ## Reading what was written down -/

theorem lexemes_append (b : Builder) (line : Int) (xs ys : List Lexeme) :
    b.lexemes line (xs ++ ys) = (b.lexemes line xs).lexemes (line + newlinesOf xs) ys := by
  induction xs generalizing b line with
  | nil => simp [lexemes, newlinesOf]
  | cons x xs ih =>
      rw [List.cons_append, lexemes, ih, lexemes, newlinesOf]
      push_cast
      rw [Int.add_assoc]

/-- Reading the tokens `ts` adds the nodes `ns`, lines aside, to whatever was read before. -/
def Adds (ts : List Token) (ns : List Node) : Prop :=
  ∀ xs : List Lexeme, xs.map (·.token) = ts → ∀ (b : Builder) (line : Int),
    ∃ ms, Node.unlinedAll ms = Node.unlinedAll ns ∧
      b.lexemes line xs = ⟨ms.reverse ++ b.children, b.around⟩

theorem Adds.append {ts us : List Token} {ns ms : List Node} (hts : Adds ts ns) (hus : Adds us ms) :
    Adds (ts ++ us) (ns ++ ms) := by
  intro xs hxs b line
  obtain ⟨ys, zs, rfl, hys, hzs⟩ := List.map_eq_append_iff.mp hxs
  obtain ⟨ns', hns, hfirst⟩ := hts ys hys b line
  obtain ⟨ms', hms, hsecond⟩ :=
    hus zs hzs ⟨ns'.reverse ++ b.children, b.around⟩ (line + newlinesOf ys)
  refine ⟨ns' ++ ms', ?_, ?_⟩
  · simp only [Node.unlinedAll_eq_map, List.map_append] at hns hms ⊢
    rw [hns, hms]
  · rw [lexemes_append, hfirst, hsecond, List.reverse_append, List.append_assoc]

theorem adds_nil : Adds [] [] := by
  intro xs hxs b line
  obtain rfl := List.map_eq_nil_iff.mp hxs
  exact ⟨[], rfl, rfl⟩

/-- A token that becomes a node of its own. -/
theorem adds_single {t : Token} {n : Node}
    (h : ∀ (b : Builder) (line : Int), ∃ m, m.unlined = n.unlined ∧ b.token line t = b.add m) :
    Adds [t] [n] := by
  intro xs hxs b line
  obtain ⟨x, rfl, rfl⟩ := List.map_eq_singleton_iff.mp hxs
  obtain ⟨m, hm, htoken⟩ := h b line
  refine ⟨[m], ?_, htoken⟩
  rw [Node.unlinedAll_singleton, Node.unlinedAll_singleton, hm]

theorem closeTag_openElement (b : Builder) (tag : Bytes) (attrs : List Attribute) (line : Int)
    (children : List Node) :
    closeTag ⟨children, (b.openElement tag attrs line).around⟩ tag =
      b.add (.element tag attrs children.reverse line) := by
  simp [closeTag, Builder.openElement, closeThrough, OpenElement.close, Builder.add]

/-- The end tag of an element closes that element, since all that is inside it is closed. -/
theorem Adds.element {tag : Bytes} (htag : isVoid tag = false) (attrs : List Attribute)
    {inner : List Token} {children : List Node} (h : Adds inner children) (line : Int) :
    Adds (.startTag tag attrs :: (inner ++ [.endTag tag])) [.element tag attrs children line] := by
  intro xs hxs b start
  obtain ⟨x, ys, rfl, hx, hys⟩ := List.map_eq_cons_iff.mp hxs
  obtain ⟨zs, ends, rfl, hzs, hends⟩ := List.map_eq_append_iff.mp hys
  obtain ⟨z, rfl, hz⟩ := List.map_eq_singleton_iff.mp hends
  obtain ⟨ms, hms, hinner⟩ := h zs hzs (b.openElement tag attrs start) (start + x.raw.newlines)
  refine ⟨[.element tag attrs ms start], ?_, ?_⟩
  · rw [Node.unlinedAll_singleton, Node.unlinedAll_singleton, Node.unlined, Node.unlined, hms]
  · -- the start tag opens the element, `inner` fills it, and the end tag finds it innermost
    rw [lexemes, hx, token, if_neg (by simp [htag]), lexemes_append, hinner, lexemes, lexemes, hz,
      token, show (b.openElement tag attrs start).children = [] from rfl, List.append_nil,
      closeTag_openElement, List.reverse_reverse]
    rfl

theorem adds_tokensAll {ns : List Node} (h : ∀ n ∈ ns, Adds n.tokens [n]) :
    Adds (Node.tokensAll ns) ns := by
  induction ns with
  | nil => exact adds_nil
  | cons n ns ih =>
      obtain ⟨hn, hns⟩ := List.forall_mem_cons.mp h
      exact hn.append (ih hns)

theorem adds_tokens {n : Node} (h : n.VoidsEmpty) : Adds n.tokens [n] := by
  induction h with
  | @element tag attrs children line hvoid _ ih =>
      rw [Node.tokens]
      cases htag : isVoid tag with
      | true =>
          obtain rfl := hvoid htag
          refine adds_single fun b start => ⟨.element tag attrs [] start, rfl, ?_⟩
          rw [token, if_pos htag]
      | false => exact (adds_tokensAll ih).element htag attrs line
  | text data line => exact adds_single fun b start => ⟨.text data start, rfl, rfl⟩

end Builder

theorem voidsEmpty_forest (xs : List Lexeme) : ∀ n ∈ forest xs, n.VoidsEmpty := by
  have hstart : Builder.Sound {} := ⟨by simp, by simp⟩
  exact (hstart.lexemes 1 xs).finish

/-- Building what a forest was written down as gives the forest. -/
theorem unlinedAll_forest {ns : List Node} (hns : ∀ n ∈ ns, n.VoidsEmpty) {xs : List Lexeme}
    (hxs : xs.map (·.token) = Node.tokensAll ns) :
    Node.unlinedAll (forest xs) = Node.unlinedAll ns := by
  have hadds := Builder.adds_tokensAll fun n hn => Builder.adds_tokens (hns n hn)
  obtain ⟨ms, hms, hread⟩ := hadds xs hxs {} 1
  rw [forest, hread, ← hms]
  simp [Builder.finish, Builder.closeAll]

/-- The forest that tokens describe has no void element with children. Written down, it is well
nested, and building that again gives the same forest, lines aside. Well-nested tokens are what
their forest is written down as. -/
theorem forest_tokensAll (xs : List Lexeme) :
    (∀ n ∈ forest xs, n.VoidsEmpty) ∧
    WellNested (Node.tokensAll (forest xs)) ∧
    (∀ ys : List Lexeme, ys.map (·.token) = Node.tokensAll (forest xs) →
      Node.unlinedAll (forest ys) = Node.unlinedAll (forest xs)) ∧
    (WellNested (xs.map (·.token)) → Node.tokensAll (forest xs) = xs.map (·.token)) := by
  refine ⟨voidsEmpty_forest xs, .tokensAll _, ?_, ?_⟩
  · intro ys hys
    exact unlinedAll_forest (voidsEmpty_forest xs) hys
  · intro hnested
    obtain ⟨ns, hns, htokens⟩ := hnested.exists_nodes
    have hforest := unlinedAll_forest hns htokens.symm
    rw [← htokens, ← Node.tokensAll_unlinedAll, hforest, Node.tokensAll_unlinedAll]

/-- An element that its parent's end tag closes, a void and a self-closing element, and a
stray end tag. -/
def misnestedTokens : List Token :=
  [.startTag (Bytes.lit "p") [], .startTag (Bytes.lit "b") [], .text (Bytes.lit "x"),
    .endTag (Bytes.lit "p"),
    .startTag (Bytes.lit "br") [], .comment, .selfClosingTag (Bytes.lit "i") [],
      .endTag (Bytes.lit "u"),
    .text (Bytes.lit "y")]

/-- The same elements, well nested. -/
def straightTokens : List Token :=
  [.startTag (Bytes.lit "p") [], .startTag (Bytes.lit "b") [], .text (Bytes.lit "x"),
    .endTag (Bytes.lit "b"),
    .endTag (Bytes.lit "p"), .startTag (Bytes.lit "br") [], .startTag (Bytes.lit "i") [],
    .endTag (Bytes.lit "i"), .text (Bytes.lit "y")]

theorem forest_tokensAll_misnested :
    Node.tokensAll (forest (misnestedTokens.map (⟨[], ·⟩))) = straightTokens ∧
    Node.unlinedAll (forest (straightTokens.map (⟨[Ascii.newline], ·⟩))) =
      Node.unlinedAll (forest (misnestedTokens.map (⟨[], ·⟩))) ∧
    WellNested straightTokens ∧
    Node.tokensAll (forest (straightTokens.map (⟨[Ascii.newline], ·⟩))) = straightTokens := by
  have hwritten :
      Node.tokensAll (forest (misnestedTokens.map (⟨[], ·⟩))) = straightTokens := by decide
  have htokens :
      (straightTokens.map fun t => (⟨[Ascii.newline], t⟩ : Lexeme)).map (·.token) =
        straightTokens := by
    rw [List.map_map]
    exact List.map_id _
  obtain ⟨_, hnested, hagain, _⟩ := forest_tokensAll (misnestedTokens.map (⟨[], ·⟩))
  obtain ⟨_, _, _, hstraight⟩ := forest_tokensAll (straightTokens.map (⟨[Ascii.newline], ·⟩))
  rw [hwritten] at hnested
  rw [htokens] at hstraight
  exact ⟨hwritten, hagain _ (htokens.trans hwritten.symm), hnested, hstraight hnested⟩

end ComponentCompiler.Markup
