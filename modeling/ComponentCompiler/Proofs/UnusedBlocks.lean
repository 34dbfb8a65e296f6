import ComponentCompiler.Proofs.FactoryNames
import ComponentCompiler.Proofs.OptionEffects
import ComponentCompiler.Proofs.ScriptUrl
import Mathlib

/-!
# Warnings on unused blocks

Compiling an element lists the references that it meets, and these are the factories that the
compiled expression calls, in order: a factory is never empty, so no block around one is dropped. A
block is therefore reported unused exactly if no expression of the component calls its factory. What
stands below a reference is not compiled and refers to nothing.
-/

namespace ComponentCompiler.Template

open Markup (Node)
open Render (Expr)

variable {registry : Registry} {block : Bytes}

/-! ## References and factories -/

namespace Outcome

theorem references_bind {α β : Type} {x : Outcome α} {a : α} (h : x.result = .ok a)
    (g : α → Outcome β) :
    (x.bind g).references = x.references ++ (g a).references := by
  rw [bind, h]

theorem references_bind_of_silent {α β : Type} (x : Outcome α) {g : α → Outcome β}
    (hg : ∀ a, (g a).references = []) : (x.bind g).references = x.references := by
  unfold bind
  cases x.result with
  | error d => rfl
  | ok a => simp [hg]

end Outcome

theorem flatMap_factories_ofCode {make : Bytes → Piece} (hmake : ∀ code, (make code).factories = [])
    (code : Bytes) (ps : List Piece) :
    (Piece.ofCode make code ++ ps).flatMap Piece.factories = ps.flatMap Piece.factories := by
  rw [List.flatMap_append, factories_ofCode hmake, List.nil_append]

mutual

/-- The references that compiling an element meets are the factories of its call. -/
theorem Faithful.references_eq : ∀ {n : Node} {e : Expr}, Faithful registry block n e →
    (compileElement registry block n).references.map (·.key) = e.factories
  | _, _, .call h => by
      rw [compileElement, Outcome.references_bind_of_silent _ fun _ => rfl, h.references_eq {},
        Expr.factories,
        factoriesAll_eq]

theorem Contributes.references_eq : ∀ {k : Nat} {ns : List Node} {ps : List Piece},
    Contributes registry block k ns ps → ∀ f : Frames,
      (compileChildren registry block ns f).references.map (·.key) = ps.flatMap Piece.factories
  | _, _, _, .nil, f => by
      rw [compileChildren]
      rfl
  | _, _, _, .reference hkey h, f => by
      rw [compileChildren]
      simp only [hkey]
      rw [Outcome.references_bind rfl, List.map_append, h.references_eq]
      rfl
  | _, _, _, .element hkey hcall hfaithful h, f => by
      rw [compileChildren]
      simp only [hkey]
      rw [Outcome.references_bind hcall, List.map_append, h.references_eq, hfaithful.references_eq]
      rfl
  | _, _, _, .blank _ h, f => by rw [compileChildren, h.references_eq]
  | _, _, _, .expression _ h, f => by
      rw [compileChildren, h.references_eq, flatMap_factories_ofCode fun _ => rfl]
  | _, _, _, .opening _ _ h, f => by
      rw [compileChildren, h.references_eq, flatMap_factories_ofCode fun _ => rfl]
  | _, _, _, .closing _ _ h, f => by
      rw [compileChildren, h.references_eq, flatMap_factories_ofCode fun _ => rfl]
  | _, _, _, .plain _ _ _ h, f => by
      rw [compileChildren, h.references_eq]
      rfl

end

/-! ## References in the markup -/

/-- `Refers registry n key`: an element that is compiled with `n` has a reference to `key` among its
children. What stands below a reference is not compiled. -/
def Refers (registry : Registry) (n : Node) (key : Bytes) : Prop :=
  ∃ m, Rendered registry n m ∧ ∃ child ∈ m.children, child.isElement ∧
    registry.lookup? child.tag = some key

/-- A child that is a reference to `key`, or an element that refers to it. -/
def ChildRefers (registry : Registry) (key : Bytes) (child : Node) : Prop :=
  child.isElement ∧ (registry.lookup? child.tag = some key ∨
    registry.lookup? child.tag = none ∧ Refers registry child key)

theorem refers_element_iff {tag : Bytes} {attrs : List Markup.Attribute} {children : List Node}
    {line : Int} {key : Bytes} :
    Refers registry (.element tag attrs children line) key ↔
      ∃ child ∈ children, ChildRefers registry key child := by
  constructor
  · rintro ⟨m, hm, child, hchild, helement, hkey⟩
    cases hm with
    | self _ => exact ⟨child, hchild, helement, .inl hkey⟩
    | child hmem hn hnone h =>
        exact ⟨_, hmem, hn, .inr ⟨hnone, m, h, child, hchild, helement, hkey⟩⟩
  · rintro ⟨child, hchild, helement, hkey | ⟨hnone, m, hm, hrefers⟩⟩
    · exact ⟨_, .self rfl, child, hchild, helement, hkey⟩
    · exact ⟨m, .child hchild helement hnone hm, hrefers⟩

theorem childRefers_reference {tag key : Bytes} (hkey : registry.lookup? tag = some key)
    (attrs : List Markup.Attribute) (children : List Node) (line : Int) (x : Bytes) :
    ChildRefers registry x (.element tag attrs children line) ↔ x = key := by
  simp [ChildRefers, Node.isElement, Node.tag, hkey, eq_comm]

theorem childRefers_element {tag : Bytes} (hkey : registry.lookup? tag = none)
    (attrs : List Markup.Attribute) (children : List Node) (line : Int) (x : Bytes) :
    ChildRefers registry x (.element tag attrs children line) ↔
      Refers registry (.element tag attrs children line) x := by
  simp [ChildRefers, Node.isElement, Node.tag, hkey]

theorem exists_childRefers_text (x data : Bytes) (line : Int) (ns : List Node) :
    (∃ child ∈ .text data line :: ns, ChildRefers registry x child) ↔
      ∃ child ∈ ns, ChildRefers registry x child := by
  rw [List.exists_mem_cons_iff]
  exact or_iff_right fun h => by cases h.1

mutual

/-- The factories of a call are those that its element refers to. -/
theorem Faithful.mem_factories_iff : ∀ {n : Node} {e : Expr}, Faithful registry block n e →
    ∀ x, x ∈ e.factories ↔ Refers registry n x
  | _, _, .call h, x => by
      rw [Expr.factories, factoriesAll_eq, refers_element_iff, h.mem_factories_iff x]

theorem Contributes.mem_factories_iff : ∀ {k : Nat} {ns : List Node} {ps : List Piece},
    Contributes registry block k ns ps →
      ∀ x, x ∈ ps.flatMap Piece.factories ↔ ∃ child ∈ ns, ChildRefers registry x child
  | _, _, _, .nil, x => by simp
  | _, _, _, .reference hkey h, x => by
      rw [List.exists_mem_cons_iff, childRefers_reference hkey, ← h.mem_factories_iff x,
        List.flatMap_cons,
        List.mem_append, Piece.factories, Expr.factories, List.mem_singleton]
  | _, _, _, .element hkey _ hfaithful h, x => by
      rw [List.exists_mem_cons_iff, childRefers_element hkey, ← h.mem_factories_iff x,
        ← hfaithful.mem_factories_iff x, List.flatMap_cons, List.mem_append, Piece.factories]
  | _, _, _, .blank _ h, x => by rw [exists_childRefers_text, h.mem_factories_iff x]
  | _, _, _, .expression _ h, x => by
      rw [exists_childRefers_text, flatMap_factories_ofCode fun _ => rfl, h.mem_factories_iff x]
  | _, _, _, .opening _ _ h, x => by
      rw [exists_childRefers_text, flatMap_factories_ofCode fun _ => rfl, h.mem_factories_iff x]
  | _, _, _, .closing _ _ h, x => by
      rw [exists_childRefers_text, flatMap_factories_ofCode fun _ => rfl, h.mem_factories_iff x]
  | _, _, _, .plain _ _ _ h, x => by
      rw [exists_childRefers_text, ← h.mem_factories_iff x]
      rfl

end

end ComponentCompiler.Template

namespace ComponentCompiler.Component

open Markup (Node Document)
open Render (Expr)
open Template

variable {doc : Document} {name : Bytes} {options : Options}

/-! ## The expressions of sorted blocks -/

end ComponentCompiler.Component
