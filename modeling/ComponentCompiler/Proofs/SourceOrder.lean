import ComponentCompiler.Proofs.Nesting
import Mathlib

/-!
# Nodes in source order

Each token that makes a node makes it behind all nodes there are: whatever is open, the new node is
the last one in pre-order. So the nodes of a forest stand in pre-order as their tokens stand in the
source, and the line of each counts the newlines of all tokens before its own.
-/

namespace ComponentCompiler.Markup

/-- A node without its children. -/
inductive Heading where
  | text (data : Bytes) (line : Int)
  | element (tag : Bytes) (attrs : List Attribute) (line : Int)
  deriving DecidableEq, Repr

def Heading.line : Heading → Int
  | text _ line => line
  | element _ _ line => line

/-- The node that a token on the given line makes, if it makes one. -/
def Token.heading? (line : Int) : Token → Option Heading
  | .text data => some (.text data line)
  | .startTag tag attrs | .selfClosingTag tag attrs => some (.element tag attrs line)
  | .endTag _ | .comment | .doctype => none

theorem Token.line_of_heading? {t : Token} {line : Int} {h : Heading}
    (hh : t.heading? line = some h) :
    h.line = line := by
  cases t <;> simp [heading?] at hh <;> rw [← hh] <;> rfl

namespace Node

def heading : Node → Heading
  | element tag attrs _ line => .element tag attrs line
  | text data line => .text data line

theorem line_heading (n : Node) : n.heading.line = n.line := by
  cases n <;> rfl

mutual

/-- A node and all below it, each in front of its children. -/
def preorder : Node → List Node
  | element tag attrs children line => element tag attrs children line :: preorderAll children
  | text data line => [text data line]

/-- The nodes of a list and all below them. -/
def preorderAll : List Node → List Node
  | [] => []
  | n :: ns => preorder n ++ preorderAll ns

end

theorem preorderAll_append (ms ns : List Node) :
    preorderAll (ms ++ ns) = preorderAll ms ++ preorderAll ns := by
  induction ms with
  | nil => rfl
  | cons m ms ih => rw [List.cons_append, preorderAll, ih, preorderAll, List.append_assoc]

/-- The nodes of a list in pre-order, without their children. -/
def headings (ns : List Node) : List Heading := (preorderAll ns).map heading

theorem headings_append (ms ns : List Node) : headings (ms ++ ns) = headings ms ++ headings ns := by
  rw [headings, preorderAll_append, List.map_append]
  rfl

theorem headings_element (tag : Bytes) (attrs : List Attribute) (children : List Node)
    (line : Int) :
    headings [element tag attrs children line] = .element tag attrs line :: headings children := by
  simp [headings, preorderAll, preorder, heading]

end Node

namespace Builder

open Node (headings headings_append headings_element)

/-! ## Building adds at the end -/

/-- What stands last among the children of the innermost element stands last of all. -/
theorem headings_closeAll {before after : List Node} {hs : List Heading}
    (h : headings after.reverse = headings before.reverse ++ hs) (around : List OpenElement) :
    headings (closeAll after around).reverse = headings (closeAll before around).reverse ++ hs := by
  induction around generalizing before after with
  | nil => exact h
  | cons e es ih =>
      have hclose : ∀ children, headings (OpenElement.close e children).reverse =
          headings e.before.reverse ++ .element e.tag e.attrs e.line ::
            headings children.reverse := by
        intro children
        rw [OpenElement.close, List.reverse_cons, headings_append, headings_element]
      apply ih
      rw [hclose, hclose, h, List.append_assoc, List.cons_append]

theorem headings_finish_add (b : Builder) (n : Node) :
    headings (b.add n).finish = headings b.finish ++ headings [n] := by
  apply headings_closeAll
  rw [Builder.add, List.reverse_cons, headings_append]

/-- An element that was just opened is still empty. -/
theorem finish_openElement (b : Builder) (tag : Bytes) (attrs : List Attribute) (line : Int) :
    (b.openElement tag attrs line).finish = (b.add (.element tag attrs [] line)).finish := rfl

theorem finish_closeThrough (name : Bytes) (children : List Node) (around : List OpenElement) :
    (closeThrough name children around).finish = finish ⟨children, around⟩ := by
  induction around generalizing children with
  | nil => rfl
  | cons e es ih =>
      rw [closeThrough]
      split
      · rfl
      · exact ih _

/-- An end tag only closes what the end of the source would close. -/
theorem finish_closeTag (b : Builder) (name : Bytes) : (b.closeTag name).finish = b.finish := by
  rw [closeTag]
  split
  · exact finish_closeThrough name b.children b.around
  · rfl

theorem headings_finish_token (b : Builder) (line : Int) (t : Token) :
    headings (b.token line t).finish = headings b.finish ++ (t.heading? line).toList := by
  cases t with
  | text data => exact headings_finish_add b _
  | startTag tag attrs =>
      rw [token]
      split
      · exact headings_finish_add b _
      · rw [finish_openElement]
        exact headings_finish_add b _
  | selfClosingTag tag attrs => exact headings_finish_add b _
  | endTag name => rw [token, finish_closeTag, Token.heading?, Option.toList_none, List.append_nil]
  | comment => exact (List.append_nil _).symm
  | doctype => exact (List.append_nil _).symm

end Builder

/-! ## The nodes of a list of tokens -/

/-- The nodes that tokens make, in order. The line of each is that after the tokens
in front of it. -/
def headingsOf (xs : List Lexeme) : List Heading :=
  xs.zipIdx.filterMap fun x => x.1.token.heading? (endLine (xs.take x.2))

theorem headingsOf_concat (xs : List Lexeme) (x : Lexeme) :
    headingsOf (xs ++ [x]) = headingsOf xs ++ (x.token.heading? (endLine xs)).toList := by
  have hfront : ∀ y ∈ xs.zipIdx, y.1.token.heading? (endLine ((xs ++ [x]).take y.2)) =
      y.1.token.heading? (endLine (xs.take y.2)) := by
    intro y hy
    have hlt : y.2 < xs.length := by
      have := List.snd_lt_add_of_mem_zipIdx hy
      omega
    rw [List.take_append_of_le_length hlt.le]
  rw [headingsOf, List.zipIdx_append, List.filterMap_append, List.filterMap_congr hfront]
  congr 1
  rw [List.zipIdx_singleton, Nat.zero_add, List.filterMap_cons, List.take_left]
  cases x.token.heading? (endLine xs) <;> rfl

theorem newlinesOf_append (xs ys : List Lexeme) :
    newlinesOf (xs ++ ys) = newlinesOf xs + newlinesOf ys := by
  induction xs with
  | nil => rw [List.nil_append, newlinesOf, Nat.zero_add]
  | cons x xs ih => rw [List.cons_append, newlinesOf, ih, newlinesOf, Nat.add_assoc]

theorem line_headingsOf_le (xs : List Lexeme) : ∀ h ∈ headingsOf xs, h.line ≤ endLine xs := by
  intro h hmem
  obtain ⟨⟨x, i⟩, _, hheading⟩ := List.mem_filterMap.mp hmem
  have hline : h.line = endLine (xs.take i) := Token.line_of_heading? hheading
  have hsplit := newlinesOf_append (xs.take i) (xs.drop i)
  rw [List.take_append_drop] at hsplit
  rw [hline, endLine, endLine, hsplit]
  omega

theorem pairwise_headingsOf (xs : List Lexeme) :
    (headingsOf xs).Pairwise fun g h => g.line ≤ h.line := by
  induction xs using List.reverseRecOn with
  | nil => exact List.Pairwise.nil
  | append_singleton xs x ih =>
      rw [headingsOf_concat, List.pairwise_append]
      refine ⟨ih, ?_, ?_⟩
      · cases x.token.heading? (endLine xs) <;> simp
      · intro g hg h hh
        rw [Token.line_of_heading? (Option.mem_toList.mp hh)]
        exact line_headingsOf_le xs g hg

theorem headings_forest (xs : List Lexeme) : Node.headings (forest xs) = headingsOf xs := by
  induction xs using List.reverseRecOn with
  | nil => rfl
  | append_singleton xs x ih =>
      rw [headingsOf_concat, ← ih, forest, Builder.lexemes_append]
      exact Builder.headings_finish_token _ _ _

/-- In pre-order the nodes of a forest are those that the tokens make, in the order of the tokens,
each on the line after all tokens in front of its own; lines never decrease. -/
theorem preorder_forest (xs : List Lexeme) :
    (Node.preorderAll (forest xs)).map Node.heading =
      xs.zipIdx.filterMap (fun x => x.1.token.heading? (1 + newlinesOf (xs.take x.2))) ∧
    (Node.preorderAll (forest xs)).Pairwise fun m n => m.line ≤ n.line := by
  have hlisting : Node.headings (forest xs) = headingsOf xs := headings_forest xs
  refine ⟨hlisting, ?_⟩
  have hlines := pairwise_headingsOf xs
  rw [← hlisting, Node.headings, List.pairwise_map] at hlines
  simpa only [Node.line_heading] using hlines

end ComponentCompiler.Markup
