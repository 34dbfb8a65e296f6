import ComponentCompiler.Proofs.Utf8
import ComponentCompiler.Template.Compile
import Mathlib

/-!
# What the children of an element contribute

Compiling an element collects its children in frames and wraps the siblings of an open expression
into a block. `Contributes` says, without frames, what each child gives to the flattened children of
the call, in source order, and `Faithful` says so for a whole tree of calls.
-/

namespace ComponentCompiler.Template

open Markup (Node)
open Render (Expr)

/-! ## Flattening -/

/-- A part of a flattened child list: a whole item, or the code around the items of a block. -/
inductive Piece where
  | item (e : Expr)
  | head (code : Bytes)
  | tail (code : Bytes)

namespace Piece

/-- A piece made of code. Empty code makes none. -/
def ofCode (make : Bytes → Piece) (code : Bytes) : List Piece :=
  if code = [] then [] else [make code]

@[simp] theorem ofCode_nil (make : Bytes → Piece) : ofCode make [] = [] := rfl

end Piece

mutual

/-- The pieces of an expression. A block gives its head, its items and its tail. -/
def pieces : Expr → List Piece
  | .block head items tail => Piece.ofCode .head head ++ piecesAll items ++ Piece.ofCode .tail tail
  | .hole => [.item .hole]
  | .call tag props children => [.item (.call tag props children)]
  | .factory name props => [.item (.factory name props)]
  | .raw code => [.item (.raw code)]
  | .literal quoted => [.item (.literal quoted)]

/-- The pieces of a list of expressions. -/
def piecesAll : List Expr → List Piece
  | [] => []
  | e :: es => pieces e ++ piecesAll es

end

@[simp] theorem piecesAll_append (es fs : List Expr) :
    piecesAll (es ++ fs) = piecesAll es ++ piecesAll fs := by
  induction es with
  | nil => rfl
  | cons e es ih => simp [piecesAll, ih]

/-! ## Contributions -/

mutual

/-- `Faithful registry block n e`: the call `e` holds what the children of the element `n`
contribute, and so does every call in it. -/
inductive Faithful (registry : Registry) (block : Bytes) : Node → Expr → Prop
  | call {tag : Bytes} {attrs : List Markup.Attribute} {children : List Node} {line : Int}
      {items : List Expr} (h : Contributes registry block 0 children (piecesAll items)) :
      Faithful registry block (.element tag attrs children line)
        (.call tag (attributeProps attrs) items)

/-- `Contributes registry block k ns ps`: the children `ns`, in front of which `k` expressions are
open, contribute the pieces `ps` and leave no expression open. -/
inductive Contributes (registry : Registry) (block : Bytes) : Nat → List Node → List Piece → Prop
  | nil : Contributes registry block 0 [] []
  /-- A reference to a sub-component. Its own children contribute nothing. -/
  | reference {k : Nat} {tag key : Bytes} {attrs : List Markup.Attribute} {children ns : List Node}
      {line : Int} {ps : List Piece} (hkey : registry.lookup? tag = some key)
      (h : Contributes registry block k ns ps) :
      Contributes registry block k (.element tag attrs children line :: ns)
        (.item (.factory key (factoryProps attrs)) :: ps)
  /-- Any other element contributes its own call. -/
  | element {k : Nat} {tag : Bytes} {attrs : List Markup.Attribute} {children ns : List Node}
      {line : Int} {call : Expr} {ps : List Piece} (hkey : registry.lookup? tag = none)
      (hcall : (compileElement registry block (.element tag attrs children line)).result = .ok call)
      (hfaithful : Faithful registry block (.element tag attrs children line) call)
      (h : Contributes registry block k ns ps) :
      Contributes registry block k (.element tag attrs children line :: ns) (.item call :: ps)
  | blank {k : Nat} {data : Bytes} {line : Int} {ns : List Node} {ps : List Piece}
      (hdata : Text.trim data = []) (h : Contributes registry block k ns ps) :
      Contributes registry block k (.text data line :: ns) ps
  /-- A text in braces. -/
  | expression {k : Nat} {data code : Bytes} {line : Int} {ns : List Node} {ps : List Piece}
      (hdata : Text.trim data = Ascii.openBrace :: (code ++ [Ascii.closeBrace]))
      (h : Contributes registry block k ns ps) :
      Contributes registry block k (.text data line :: ns)
        (Piece.ofCode (fun code => .item (.raw code)) (Text.trim code) ++ ps)
  /-- A text that starts with a brace and does not end with another one. -/
  | opening {k : Nat} {data code : Bytes} {line : Int} {ns : List Node} {ps : List Piece}
      (hdata : Text.trim data = Ascii.openBrace :: code)
      (hlast : code.getLast? ≠ some Ascii.closeBrace)
      (h : Contributes registry block (k + 1) ns ps) :
      Contributes registry block k (.text data line :: ns)
        (Piece.ofCode .head (Text.trim code) ++ ps)
  /-- A text that only ends with a brace, while an expression is open. -/
  | closing {k : Nat} {data code : Bytes} {line : Int} {ns : List Node} {ps : List Piece}
      (hdata : Text.trim data = code ++ [Ascii.closeBrace])
      (hhead : (Text.trim data).head? ≠ some Ascii.openBrace)
      (h : Contributes registry block k ns ps) :
      Contributes registry block (k + 1) (.text data line :: ns)
        (Piece.ofCode .tail (Text.trim code) ++ ps)
  /-- Any other text. -/
  | plain {k : Nat} {data : Bytes} {line : Int} {ns : List Node} {ps : List Piece}
      (hdata : Text.trim data ≠ []) (hhead : (Text.trim data).head? ≠ some Ascii.openBrace)
      (hlast : k = 0 ∨ (Text.trim data).getLast? ≠ some Ascii.closeBrace)
      (h : Contributes registry block k ns ps) :
      Contributes registry block k (.text data line :: ns)
        (.item (.literal (Script.quoteText (Text.trim data))) :: ps)

end

/-! ## Pieces of open frames -/

namespace Frames

/-- All pieces collected so far, in source order. -/
def pieces (f : Frames) : List Piece :=
  piecesAll f.items ++ f.opened.reverse.flatMap fun frame =>
    Piece.ofCode .head frame.head ++ piecesAll frame.items.reverse

/-- No item that prints as nothing has been collected. -/
def Solid (f : Frames) : Prop :=
  (∀ e ∈ f.base, e.isEmpty = false) ∧ ∀ frame ∈ f.opened, ∀ e ∈ frame.items, e.isEmpty = false

theorem solid_empty : Solid {} := ⟨by simp, by simp⟩

theorem pieces_add {f : Frames} {e : Expr} (he : e.isEmpty = false) :
    (f.add e).pieces = f.pieces ++ Template.pieces e := by
  rw [add, if_neg (by simp [he])]
  cases hopened : f.opened with
  | nil => simp [pieces, items, hopened, piecesAll]
  | cons top rest => simp [pieces, items, hopened, piecesAll]

theorem add_of_isEmpty {f : Frames} {e : Expr} (he : e.isEmpty = true) : f.add e = f := if_pos he

theorem solid_add {f : Frames} (hf : f.Solid) (e : Expr) : (f.add e).Solid := by
  cases he : e.isEmpty with
  | true => rwa [add_of_isEmpty he]
  | false =>
      obtain ⟨hbase, hopened⟩ := hf
      rw [add, if_neg (by simp [he])]
      cases hf : f.opened with
      | nil => exact ⟨by simpa [he] using hbase, by simp⟩
      | cons top rest =>
          rw [hf] at hopened
          refine ⟨hbase, ?_⟩
          simpa [he] using hopened

@[simp] theorem depth_add (f : Frames) (e : Expr) : (f.add e).depth = f.depth := by
  unfold add depth
  split
  · rfl
  · cases f.opened <;> rfl

theorem pieces_push (f : Frames) (head : Bytes) (line : Int) :
    (f.push head line).pieces = f.pieces ++ Piece.ofCode .head head := by
  simp [pieces, push, items, piecesAll]

theorem solid_push {f : Frames} (hf : f.Solid) (head : Bytes) (line : Int) :
    (f.push head line).Solid :=
  ⟨hf.1, by simpa [push] using hf.2⟩

end Frames

/-- A list of items none of which is empty is not empty, unless it has no items. -/
theorem eq_nil_of_allEmpty {es : List Expr} (h : Expr.allEmpty es = true)
    (hes : ∀ e ∈ es, e.isEmpty = false) : es = [] := by
  cases es with
  | nil => rfl
  | cons e es =>
      rw [Expr.allEmpty, hes e List.mem_cons_self] at h
      cases h

namespace Frames

/-- Closing an expression keeps its pieces and adds its tail. -/
theorem pieces_pop {f : Frames} (hf : f.Solid) (hdepth : 0 < f.depth) (tail : Bytes) :
    (f.pop tail).pieces = f.pieces ++ Piece.ofCode .tail tail := by
  obtain ⟨hbase, hopened⟩ := hf
  unfold pop
  cases hf : f.opened with
  | nil => simp [depth, hf] at hdepth
  | cons top rest =>
      have hall : f.pieces = pieces { f with opened := rest } ++
          (Piece.ofCode .head top.head ++ piecesAll top.items.reverse) := by
        simp [pieces, items, hf]
      simp only
      cases he : (Expr.block top.head top.items.reverse tail).isEmpty with
      | false =>
          rw [pieces_add he, hall, Template.pieces]
          simp
      | true =>
          simp only [Expr.isEmpty, Bool.and_eq_true, beq_iff_eq] at he
          obtain ⟨⟨hhead, rfl⟩, hitems⟩ := he
          have hnil : top.items.reverse = [] := eq_nil_of_allEmpty hitems (by
            rw [hf] at hopened
            simpa using hopened top List.mem_cons_self)
          rw [add_of_isEmpty (by simp [Expr.isEmpty, hhead, hnil, Expr.allEmpty]), hall, hnil,
            hhead]
          simp [piecesAll]

theorem solid_pop {f : Frames} (hf : f.Solid) (tail : Bytes) : (f.pop tail).Solid := by
  unfold pop
  cases hopened : f.opened with
  | nil => exact hf
  | cons top rest =>
      have hrest : Solid { f with opened := rest } :=
        ⟨hf.1, fun frame hframe => hf.2 frame (hopened ▸ List.mem_cons_of_mem top hframe)⟩
      exact solid_add hrest _

@[simp] theorem depth_pop (f : Frames) (tail : Bytes) : (f.pop tail).depth = f.depth - 1 := by
  unfold pop
  cases hopened : f.opened with
  | nil => simp [depth, hopened]
  | cons top rest =>
      rw [depth_add]
      simp [depth, hopened]

end Frames

/-! ## Texts -/

/-- The role of a text that is already trimmed. -/
theorem textKind_of_trim {t : Bytes} (ht : Text.trim t = t) (isOpen : Bool) :
    textKind t isOpen =
      if t = [] then .blank
      else if isBraced t then .expression
      else if t.head? = some Ascii.openBrace then .opening
      else if t.getLast? = some Ascii.closeBrace ∧ isOpen then .closing
      else .plain := by
  simp only [textKind, ht]

theorem textKind_cases {t : Bytes} (ht : Text.trim t = t) (isOpen : Bool) :
    (textKind t isOpen = .blank ∧ t = []) ∨
    (textKind t isOpen = .expression ∧ ∃ code,
      t = Ascii.openBrace :: (code ++ [Ascii.closeBrace])) ∨
    (textKind t isOpen = .opening ∧
      ∃ code, t = Ascii.openBrace :: code ∧ code.getLast? ≠ some Ascii.closeBrace) ∨
    (textKind t isOpen = .closing ∧ isOpen = true ∧ t.head? ≠ some Ascii.openBrace ∧
      ∃ code, t = code ++ [Ascii.closeBrace]) ∨
    (textKind t isOpen = .plain ∧ t ≠ [] ∧ t.head? ≠ some Ascii.openBrace ∧
      (isOpen = false ∨ t.getLast? ≠ some Ascii.closeBrace)) := by
  rw [textKind_of_trim ht]
  cases t with
  | nil => exact .inl ⟨rfl, rfl⟩
  | cons b rest =>
      rw [if_neg (List.cons_ne_nil b rest)]
      by_cases hb : b = Ascii.openBrace
      · subst hb
        by_cases hlast : rest.getLast? = some Ascii.closeBrace
        · obtain ⟨code, rfl⟩ := List.getLast?_eq_some_iff.mp hlast
          exact .inr (.inl ⟨by simp [isBraced], code, rfl⟩)
        · exact .inr (.inr (.inl ⟨by simp [isBraced, hlast], rest, rfl, hlast⟩))
      · have hhead : (b :: rest).head? ≠ some Ascii.openBrace := by simpa using hb
        rw [if_neg (by simp [isBraced, hb]), if_neg hhead]
        by_cases hclose : (b :: rest).getLast? = some Ascii.closeBrace ∧ isOpen = true
        · obtain ⟨code, hcode⟩ := List.getLast?_eq_some_iff.mp hclose.1
          exact .inr (.inr (.inr (.inl ⟨if_pos hclose, hclose.2, hhead, code, hcode⟩)))
        · refine .inr (.inr (.inr (.inr ⟨if_neg hclose, List.cons_ne_nil b rest, hhead, ?_⟩)))
          cases isOpen with
          | false => exact .inl rfl
          | true => exact .inr fun hlast => hclose ⟨hlast, rfl⟩

/-- One text: what it adds to the frames is what it contributes. -/
theorem addText_contributes (registry : Registry) (block : Bytes) {f : Frames} (hf : f.Solid)
    (data : Bytes) (line : Int) :
    (addText f data line).Solid ∧ ∃ qs, (addText f data line).pieces = f.pieces ++ qs ∧
      ∀ ns ps, Contributes registry block (addText f data line).depth ns ps →
        Contributes registry block f.depth (.text data line :: ns) (qs ++ ps) := by
  unfold addText
  simp only
  rcases textKind_cases (Text.trim_trim data) (0 < f.depth)
    with ⟨hkind, hdata⟩ | ⟨hkind, code, hdata⟩ |
    ⟨hkind, code, hdata, hlast⟩ | ⟨hkind, hopen, hhead, code, hdata⟩ | ⟨hkind, hdata, hhead, hlast⟩
  · rw [hkind]
    exact ⟨hf, [], by simp, fun ns ps h => .blank hdata h⟩
  · rw [hkind]
    have hinside : inside (Text.trim data) = Text.trim code := by simp [inside, hdata]
    refine ⟨Frames.solid_add hf _, Piece.ofCode (fun code => .item (.raw code)) (Text.trim code),
      ?_,
      fun ns ps h => .expression hdata (by simpa using h)⟩
    simp only [hinside]
    by_cases hcode : Text.trim code = []
    · rw [Frames.add_of_isEmpty (by simpa [Expr.isEmpty] using hcode), hcode]
      simp
    · rw [Frames.pieces_add (by simp [Expr.isEmpty, hcode]), Piece.ofCode, if_neg hcode, pieces]
  · rw [hkind]
    have htail : (Text.trim data).tail = code := by rw [hdata, List.tail_cons]
    refine ⟨Frames.solid_push hf _ _, Piece.ofCode .head (Text.trim code), ?_,
      fun ns ps h => .opening hdata hlast h⟩
    simp only [Frames.pieces_push, htail]
  · rw [hkind]
    have hdepth : 0 < f.depth := by simpa using hopen
    have hdrop : (Text.trim data).dropLast = code := by rw [hdata, List.dropLast_concat]
    refine ⟨Frames.solid_pop hf _, Piece.ofCode .tail (Text.trim code), ?_, fun ns ps h => ?_⟩
    · simp only [Frames.pieces_pop hf hdepth, hdrop]
    · simp only [Frames.depth_pop] at h
      rw [show f.depth = f.depth - 1 + 1 by omega]
      exact .closing hdata hhead h
  · rw [hkind]
    refine ⟨Frames.solid_add hf _, [.item (.literal (Script.quoteText (Text.trim data)))], ?_,
      fun ns ps h => .plain hdata hhead ?_ (by simpa using h)⟩
    · simp only [Frames.pieces_add (e := .literal _) rfl, pieces]
    · simpa using hlast

/-! ## Whole trees -/

theorem Outcome.bind_eq_ok {α β : Type} {x : Outcome α} {g : α → Outcome β} {b : β} :
    (x.bind g).result = .ok b ↔ ∃ a, x.result = .ok a ∧ (g a).result = .ok b := by
  unfold Outcome.bind
  cases h : x.result with
  | error d => simp
  | ok a => simp

theorem finishElement_eq_ok {block tag : Bytes} {attrs : List Markup.Attribute} {f : Frames}
    {e : Expr} (h : finishElement block tag attrs f = .ok e) :
    f.opened = [] ∧ e = .call tag (attributeProps attrs) f.items := by
  unfold finishElement Frames.innermost? at h
  cases hf : f.opened with
  | nil =>
      rw [hf] at h
      exact ⟨rfl, (Except.ok.inj h).symm⟩
  | cons top rest =>
      rw [hf] at h
      cases h

mutual

theorem faithful_of_compileElement {registry : Registry} {block : Bytes} :
    ∀ {n : Node} {e : Expr}, n.isElement → (compileElement registry block n).result = .ok e →
      Faithful registry block n e
  | .text .., e, hn, _ => by cases hn
  | .element tag attrs children line, e, _, h => by
      rw [compileElement, Outcome.bind_eq_ok] at h
      obtain ⟨f, hchildren, hfinish⟩ := h
      obtain ⟨hopened, rfl⟩ := finishElement_eq_ok hfinish
      obtain ⟨ps, hps, hpieces⟩ :=
        contributes_of_compileChildren Frames.solid_empty hchildren hopened
      have hitems : piecesAll f.items = ps := by
        simpa [Frames.pieces, hopened, Frames.items, piecesAll] using hpieces
      exact .call (hitems ▸ hps)

/-- What the frames hold in the end is what they held before and what the children contribute. -/
theorem contributes_of_compileChildren {registry : Registry} {block : Bytes} :
    ∀ {ns : List Node} {f f' : Frames}, f.Solid →
      (compileChildren registry block ns f).result = .ok f' → f'.opened = [] →
      ∃ ps, Contributes registry block f.depth ns ps ∧ f'.pieces = f.pieces ++ ps
  | [], f, f', _, h, hopened => by
      rw [compileChildren] at h
      obtain rfl : f = f' := Except.ok.inj h
      rw [Frames.depth, hopened]
      exact ⟨[], .nil, by simp⟩
  | .text data line :: ns, f, f', hf, h, hopened => by
      rw [compileChildren] at h
      obtain ⟨hsolid, qs, hqs, hcontributes⟩ := addText_contributes registry block hf data line
      obtain ⟨ps, hps, hpieces⟩ := contributes_of_compileChildren hsolid h hopened
      exact ⟨qs ++ ps, hcontributes ns ps hps, by rw [hpieces, hqs, List.append_assoc]⟩
  | .element tag attrs children line :: ns, f, f', hf, h, hopened => by
      rw [compileChildren] at h
      cases hkey : registry.lookup? tag with
      | some key =>
          rw [hkey] at h
          obtain ⟨_, _, h⟩ := Outcome.bind_eq_ok.mp h
          obtain ⟨ps, hps, hpieces⟩ :=
            contributes_of_compileChildren (Frames.solid_add hf _) h hopened
          rw [Frames.depth_add] at hps
          refine ⟨_, .reference hkey hps, ?_⟩
          rw [hpieces, Frames.pieces_add rfl, pieces, List.append_assoc, List.singleton_append]
      | none =>
          rw [hkey] at h
          obtain ⟨call, hcall, h⟩ := Outcome.bind_eq_ok.mp h
          have hfaithful := faithful_of_compileElement rfl hcall
          obtain ⟨ps, hps, hpieces⟩ :=
            contributes_of_compileChildren (Frames.solid_add hf _) h hopened
          rw [Frames.depth_add] at hps
          refine ⟨_, .element hkey hcall hfaithful hps, ?_⟩
          cases hfaithful with
          | call _ =>
              rw [hpieces, Frames.pieces_add rfl, pieces, List.append_assoc, List.singleton_append]

end

/-! ## Contributions are determined -/

/-- What a text contributes and how many expressions are open behind it, by its role. -/
def textContribution (k : Nat) (data : Bytes) : Nat × List Piece :=
  let t := Text.trim data
  match textKind t (0 < k) with
  | .blank => (k, [])
  | .expression => (k, Piece.ofCode (fun code => .item (.raw code)) (inside t))
  | .opening => (k + 1, Piece.ofCode .head (Text.trim t.tail))
  | .closing => (k - 1, Piece.ofCode .tail (Text.trim t.dropLast))
  | .plain => (k, [.item (.literal (Script.quoteText t))])

theorem Contributes.text {registry : Registry} {block : Bytes} {k : Nat} {data : Bytes} {line : Int}
    {ns : List Node} {ps : List Piece}
    (h : Contributes registry block k (.text data line :: ns) ps) :
    ∃ qs, ps = (textContribution k data).2 ++ qs ∧
      Contributes registry block (textContribution k data).1 ns qs := by
  have ht := Text.trim_trim data
  unfold textContribution
  simp only [textKind_of_trim ht]
  cases h with
  | blank hdata h =>
      rw [hdata, if_pos rfl]
      exact ⟨_, rfl, h⟩
  | expression hdata h =>
      rw [hdata, if_neg (List.cons_ne_nil _ _), if_pos (by simp [isBraced])]
      exact ⟨_, by simp [inside], h⟩
  | opening hdata hlast h =>
      rw [hdata, if_neg (List.cons_ne_nil _ _), if_neg (by simp [isBraced, hlast]),
        if_pos List.head?_cons]
      exact ⟨_, rfl, h⟩
  | closing hdata hhead h =>
      have hbraced : ¬isBraced (Text.trim data) := by simp [isBraced, hhead]
      rw [if_neg (by simp [hdata]), if_neg hbraced, if_neg hhead, if_pos (by simp [hdata])]
      exact ⟨_, by simp [hdata], h⟩
  | plain hdata hhead hlast h =>
      have hbraced : ¬isBraced (Text.trim data) := by simp [isBraced, hhead]
      rw [if_neg hdata, if_neg hbraced, if_neg hhead,
        if_neg (by rcases hlast with rfl | hlast <;> simp [*])]
      exact ⟨_, rfl, h⟩

/-- The children of an element have one list of contributions only. -/
theorem Contributes.unique {registry : Registry} {block : Bytes} {k : Nat} {ns : List Node}
    {ps qs : List Piece} (h : Contributes registry block k ns ps)
    (h' : Contributes registry block k ns qs) : ps = qs := by
  induction ns generalizing k ps qs with
  | nil =>
      cases h
      cases h'
      rfl
  | cons n ns ih =>
      cases n with
      | text data line =>
          obtain ⟨ps', rfl, hps⟩ := h.text
          obtain ⟨qs', rfl, hqs⟩ := h'.text
          rw [ih hps hqs]
      | element tag attrs children line =>
          cases h with
          | reference hkey h =>
              cases h' with
              | reference hkey' h' => rw [Option.some.inj (hkey.symm.trans hkey'), ih h h']
              | element hkey' _ _ _ => cases hkey.symm.trans hkey'
          | element hkey hcall _ h =>
              cases h' with
              | reference hkey' _ => cases hkey.symm.trans hkey'
              | element _ hcall' _ h' => rw [Except.ok.inj (hcall.symm.trans hcall'), ih h h']

/-- Compiling an element loses, duplicates and reorders nothing. The flattened children of its call
are what its children contribute, each in its place, and nothing else is; the same holds of every
call inside it. -/
theorem compileElement_contributes {registry : Registry} {block : Bytes} {n : Node} {e : Expr}
    (hn : n.isElement) (h : (compileElement registry block n).result = .ok e) :
    Faithful registry block n e ∧
      ∃ items, e = .call n.tag (attributeProps n.attrs) items ∧
        ∀ ps, Contributes registry block 0 n.children ps ↔ ps = piecesAll items := by
  have hfaithful := faithful_of_compileElement hn h
  refine ⟨hfaithful, ?_⟩
  cases hfaithful with
  | @call tag attrs children line items hchildren =>
      refine ⟨items, rfl, fun ps => ⟨fun hps => hps.unique hchildren, ?_⟩⟩
      rintro rfl
      exact hchildren

/-- A list with an expression around two siblings, one of them a reference whose content is ignored,
and a stray closing text behind it. -/
def sampleList : Node :=
  .element (Bytes.lit "ul") []
    [.text (Bytes.lit "\n " ++ [Ascii.openBrace] ++ Bytes.lit "items.map(item =>") 1,
      .element (Bytes.lit "li") [] [.text (Bytes.lit "{item}") 2] 2,
      .element (Bytes.lit "row") [⟨Bytes.lit "n", Bytes.lit "{1}"⟩] [.text (Bytes.lit "x") 3] 3,
      .text (Bytes.lit ") " ++ [Ascii.closeBrace]) 4,
      .text (Bytes.lit " done " ++ [Ascii.closeBrace]) 5] 1

/-- The children of the sample's call. -/
def sampleItems : List Expr :=
  [.block (Bytes.lit "items.map(item =>")
      [.call (Bytes.lit "li") [] [.raw (Bytes.lit "item")],
        .factory (Bytes.lit "Row") [⟨Bytes.lit "n", Bytes.lit "1"⟩]]
      (Bytes.lit ")"),
    .literal (Bytes.lit "\"done " ++ [Ascii.closeBrace, Ascii.quote])]

set_option maxRecDepth 4000 in
theorem compileElement_contributes_sample :
    (compileElement (.ofKeys [Bytes.lit "Row"]) [] sampleList).result =
        .ok (.call (Bytes.lit "ul") [] sampleItems) ∧
      Contributes (.ofKeys [Bytes.lit "Row"]) [] 0 sampleList.children
        [.head (Bytes.lit "items.map(item =>"),
          .item (.call (Bytes.lit "li") [] [.raw (Bytes.lit "item")]),
          .item (.factory (Bytes.lit "Row") [⟨Bytes.lit "n", Bytes.lit "1"⟩]),
          .tail (Bytes.lit ")"),
          .item (.literal (Bytes.lit "\"done " ++ [Ascii.closeBrace, Ascii.quote]))] := by
  have hok : (compileElement (.ofKeys [Bytes.lit "Row"]) [] sampleList).result =
      .ok (.call (Bytes.lit "ul") [] sampleItems) := by cbv
  obtain ⟨_, items, hitems, hpieces⟩ := compileElement_contributes rfl hok
  obtain ⟨_, _, rfl⟩ := Expr.call.inj hitems
  exact ⟨hok, (hpieces _).mpr rfl⟩

end ComponentCompiler.Template
