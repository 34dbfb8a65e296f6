import ComponentCompiler.Proofs.SourceOrder
import ComponentCompiler.Template.Safety

/-!
# The first unsafe element

The check of a template stops at the first unsafe element that it meets on its way down the tree.
Each element can be judged alone, by its tag and its attributes; the check is then a search
through the elements below the block in pre-order, so it accepts a block exactly if no element at
any depth is unsafe.
-/

namespace ComponentCompiler.Markup

/-- `m` is a child of `n`, or stands below one. -/
inductive Node.Descends : Node → Node → Prop
  | child {n m : Node} (hm : m ∈ n.children) : Descends n m
  | deeper {n c m : Node} (hc : c ∈ n.children) (h : Descends c m) : Descends n m

namespace Node

theorem descends_iff {n m : Node} : n.Descends m ↔ ∃ c ∈ n.children, m = c ∨ c.Descends m := by
  constructor
  · intro h
    cases h with
    | child hm => exact ⟨m, hm, .inl rfl⟩
    | deeper hc h => exact ⟨_, hc, .inr h⟩
  · rintro ⟨c, hc, rfl | h⟩
    · exact .child hc
    · exact .deeper hc h

mutual

theorem mem_preorder_iff {m : Node} : ∀ n : Node, m ∈ n.preorder ↔ m = n ∨ n.Descends m
  | text data line => by
      rw [preorder, List.mem_singleton, descends_iff]
      simp [children]
  | element tag attrs children line => by
      rw [preorder, List.mem_cons, mem_preorderAll_iff children, descends_iff]
      rfl

theorem mem_preorderAll_iff {m : Node} :
    ∀ ns : List Node, m ∈ preorderAll ns ↔ ∃ n ∈ ns, m = n ∨ n.Descends m
  | [] => by simp [preorderAll]
  | n :: ns => by
      rw [preorderAll, List.mem_append, mem_preorder_iff n, mem_preorderAll_iff ns]
      simp

end

theorem mem_preorderAll_children_iff {n m : Node} : m ∈ preorderAll n.children ↔ n.Descends m := by
  rw [mem_preorderAll_iff, descends_iff]

end Node

end ComponentCompiler.Markup

namespace ComponentCompiler.Template

open Markup (Node Attribute)

/-! ## One element -/

/-- What of a URL decides whether it is a script URL: its characters but for those up to the space,
in lower case. -/
def bareUrl (value : Bytes) : Bytes :=
  Text.toLower (Utf8.encodeChars ((Utf8.chars value).filter fun c => 0x20 < c.toNat))

/-- The attribute is a URL, is not code in braces, and is a script URL. -/
structure HoldsScriptUrl (a : Attribute) : Prop where
  key : a.key ∈ urlKeys
  literal : ¬∃ code, Text.trim a.value = Ascii.openBrace :: (code ++ [Ascii.closeBrace])
  scheme : Bytes.lit "javascript:" <+: bareUrl a.value

/-- The element has a tag that is not allowed, or some attribute of it holds a script URL. -/
def Offends (m : Node) : Prop := m.tag ∈ unsafeElements ∨ ∃ a ∈ m.attrs, HoldsScriptUrl a

theorem isBraced_iff {s : Bytes} :
    isBraced s ↔ ∃ code, s = Ascii.openBrace :: (code ++ [Ascii.closeBrace]) := by
  rw [isBraced, Bool.and_eq_true, beq_iff_eq, beq_iff_eq]
  cases s with
  | nil => simp
  | cons b s =>
      rw [List.head?_cons, Option.some_inj, List.tail_cons, List.getLast?_eq_some_iff]
      simp [List.cons.injEq]

theorem isUnsafeAttribute_iff {a : Attribute} : isUnsafeAttribute a ↔ HoldsScriptUrl a := by
  rw [isUnsafeAttribute, Bool.and_eq_true, Bool.and_eq_true, List.contains_iff_mem,
    Bool.not_eq_true', ← Bool.not_eq_true, isBraced_iff, isScriptUrl, Bytes.startsWith,
    List.isPrefixOf_iff_prefix]
  exact ⟨fun ⟨⟨hkey, hliteral⟩, hscheme⟩ => ⟨hkey, hliteral, hscheme⟩,
    fun h => ⟨⟨h.key, h.literal⟩, h.scheme⟩⟩

/-- What is wrong with an element itself. -/
def ownFault? (block : Bytes) : Node → Option Diagnostic
  | .text .. => none
  | .element tag attrs _ line =>
    if unsafeElements.contains tag then some (unsafeElement block tag line)
    else (attrs.find? isUnsafeAttribute).map (unsafeAttribute block tag line)

theorem ownFault?_eq_none_iff {block : Bytes} {m : Node} :
    ownFault? block m = none ↔ (m.isElement → ¬Offends m) := by
  cases m with
  | text data line => simp [ownFault?, Node.isElement]
  | element tag attrs children line =>
      have hattrs : attrs.find? isUnsafeAttribute = none ↔ ¬∃ a ∈ attrs, HoldsScriptUrl a := by
        rw [List.find?_eq_none]
        simp only [isUnsafeAttribute_iff, not_exists, not_and]
      by_cases htag : tag ∈ unsafeElements
      · have hoffends : Offends (.element tag attrs children line) := .inl htag
        simp [ownFault?, htag, hoffends, Node.isElement]
      · rw [ownFault?, if_neg (mt List.contains_iff_mem.mp htag), Option.map_eq_none_iff, hattrs]
        simp [Offends, Node.tag, Node.attrs, Node.isElement, htag]

theorem ownFault?_eq_some {block : Bytes} {m : Node} {d : Diagnostic}
    (h : ownFault? block m = some d) :
    m.isElement ∧ d.fault = .unsafeMarkup ∧ d.block = block ∧ d.tag = m.tag ∧ d.line = m.line := by
  cases m with
  | text data line => cases h
  | element tag attrs children line =>
      rw [ownFault?] at h
      split at h
      · obtain rfl := Option.some.inj h
        exact ⟨rfl, rfl, rfl, rfl, rfl⟩
      · obtain ⟨a, _, rfl⟩ := Option.map_eq_some_iff.mp h
        exact ⟨rfl, rfl, rfl, rfl, rfl⟩

/-! ## The elements below a block -/

mutual

theorem firstUnsafe?_eq_findSome? (block : Bytes) :
    ∀ n : Node, firstUnsafe? block n = n.preorder.findSome? (ownFault? block)
  | .text data line => rfl
  | .element tag attrs children line => by
      rw [firstUnsafe?, Node.preorder, List.findSome?_cons, ownFault?,
        firstUnsafeIn?_eq_findSome? block children]
      split
      · rfl
      · cases attrs.find? isUnsafeAttribute <;> rfl

theorem firstUnsafeIn?_eq_findSome? (block : Bytes) :
    ∀ ns : List Node, firstUnsafeIn? block ns = (Node.preorderAll ns).findSome? (ownFault? block)
  | [] => rfl
  | n :: ns => by
      rw [firstUnsafeIn?, Node.preorderAll, List.findSome?_append,
        firstUnsafe?_eq_findSome? block n,
        firstUnsafeIn?_eq_findSome? block ns]
      cases n.preorder.findSome? (ownFault? block) <;> rfl

end

theorem validate_eq_none_iff {container : Node} {block : Bytes} :
    validate container block = none ↔ ∀ m, container.Descends m → m.isElement → ¬Offends m := by
  rw [validate, firstUnsafeIn?_eq_findSome?, List.findSome?_eq_none_iff]
  simp only [ownFault?_eq_none_iff, Node.mem_preorderAll_children_iff]

/-- Checking a block is searching the elements below it. It is accepted exactly if no element below
it, at any depth, offends; otherwise the diagnostic names the block, and the tag and the line of the
first element in pre-order that does. -/
theorem validate_finds_first_offender (container : Node) (block : Bytes) :
    (validate container block = none ↔ ∀ m, container.Descends m → m.isElement → ¬Offends m) ∧
      ∀ d, validate container block = some d →
        ∃ before m after, Node.preorderAll container.children = before ++ m :: after ∧
          (∀ e ∈ before, e.isElement → ¬Offends e) ∧ m.isElement ∧ Offends m ∧
          d.fault = .unsafeMarkup ∧ d.block = block ∧ d.tag = m.tag ∧ d.line = m.line := by
  refine ⟨validate_eq_none_iff, ?_⟩
  intro d hd
  rw [validate, firstUnsafeIn?_eq_findSome?] at hd
  obtain ⟨before, m, after, hsplit, hm, hbefore⟩ := List.findSome?_eq_some_iff.mp hd
  obtain ⟨helement, hreport⟩ := ownFault?_eq_some hm
  have hoffends : Offends m := by
    by_contra hsafe
    rw [ownFault?_eq_none_iff.mpr fun _ => hsafe] at hm
    cases hm
  have hsafe : ∀ e ∈ before, e.isElement → ¬Offends e :=
    fun e he => ownFault?_eq_none_iff.mp (hbefore e he)
  exact ⟨before, m, after, hsplit, hsafe, helement, hoffends, hreport⟩

/-- A link with an address in braces and a script URL behind it, in front of a script. -/
def unsafeSample : Node :=
  .element (Bytes.lit "div") []
    [.element (Bytes.lit "p") []
        [.text (Bytes.lit "x") 2,
          .element (Bytes.lit "a")
            [⟨Bytes.lit "href", Bytes.lit "{go}"⟩, ⟨Bytes.lit "src", Bytes.lit " JAVA\tscript:x"⟩]
              [] 3] 2,
      .element (Bytes.lit "script") [] [] 4] 1

set_option maxRecDepth 100000 in
theorem validate_finds_first_offender_nested :
    validate unsafeSample (Bytes.lit "Main") =
      some (unsafeAttribute (Bytes.lit "Main") (Bytes.lit "a") 3
        ⟨Bytes.lit "src", Bytes.lit " JAVA\tscript:x"⟩) ∧
      ∃ before m after, Node.preorderAll unsafeSample.children = before ++ m :: after ∧
        (∀ e ∈ before, e.isElement → ¬Offends e) ∧ Offends m ∧ Bytes.lit "a" = m.tag ∧
          3 = m.line := by
  have hfound :
      validate unsafeSample (Bytes.lit "Main") =
        some (unsafeAttribute (Bytes.lit "Main") (Bytes.lit "a") 3
      ⟨Bytes.lit "src", Bytes.lit " JAVA\tscript:x"⟩) := by cbv
  obtain ⟨before, m, after, hsplit, hbefore, _, hoffends, _, _, htag, hline⟩ :=
    (validate_finds_first_offender unsafeSample (Bytes.lit "Main")).2 _ hfound
  exact ⟨hfound, before, m, after, hsplit, hbefore, hoffends, htag, hline⟩

end ComponentCompiler.Template
