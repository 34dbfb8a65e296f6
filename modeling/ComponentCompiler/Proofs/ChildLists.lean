import ComponentCompiler.Proofs.Contributions
import ComponentCompiler.Proofs.QuotedText
import Mathlib

/-!
# Child lists without holes

Printing separates items by commas whether they print as anything or not, so an empty item would
leave a hole in the printed list. Compiling never keeps one: an item is dropped when it is added
empty, and a block when it is closed empty. `Solid` says so of a whole tree, and what is printed for
each item of such a tree has ink.
-/

namespace ComponentCompiler.Utf8

/-! ## Text around a plain byte -/

theorem utf8EncodeChar_ascii {b : UInt8} (hb : b < 0x80) :
    String.utf8EncodeChar (Char.ofNat b.toNat) = [b] := by
  have hfront : front b [] = .scalar (Char.ofNat b.toNat) := if_pos hb
  obtain ⟨tl, rest, hnil, hbytes⟩ := eq_append_of_front hfront
  rw [hbytes, (List.append_eq_nil_iff.mp hnil.symm).1]

/-- A plain byte completes no sequence. -/
theorem front_stray_append_ascii {a b : UInt8} {s : Bytes} (hb : b < 0x80)
    (h : front a s = .stray a) (t : Bytes) :
    front a (s ++ b :: t) = .stray a := by
  rw [front_eq_stray_iff] at h ⊢
  rintro c ⟨more, hmore⟩
  rw [← List.cons_append] at hmore
  rcases List.append_eq_append_iff.mp hmore with ⟨rest, hrest, _⟩ | ⟨rest, hrest, hb'⟩
  · exact h c ⟨rest, hrest.symm⟩
  · cases rest with
    | nil => exact h c ⟨[], by rw [hrest, List.append_nil, List.append_nil]⟩
    | cons d rest =>
        -- a sequence that holds a plain byte is that byte alone
        obtain rfl : b = d := (List.cons.inj hb').1
        rcases utf8EncodeChar_cases c with ⟨_, hbytes⟩ | ⟨_, hbytes⟩
        · have hlength := congrArg List.length (hbytes.symm.trans hrest)
          simp at hlength
        · have hhigh := hbytes b (by rw [hrest]; simp)
          have hlow := UInt8.lt_iff_toNat_lt.mp hb
          simp only [UInt8.reduceToNat] at hlow
          omega

theorem decode_append_ascii {b : UInt8} (hb : b < 0x80) (s t : Bytes) :
    decode (s ++ b :: t) = decode s ++ .scalar (Char.ofNat b.toNat) :: decode t := by
  induction hn : s.length using Nat.strong_induction_on generalizing s with
  | _ n ih =>
      cases s with
      | nil =>
          rw [decode_nil, List.nil_append, List.nil_append]
          exact decode_scalar (utf8EncodeChar_ascii hb) t
      | cons a s =>
          rcases decode_cases a s with ⟨c, tl, more, rfl, hc⟩ | hstray
          · have hlt : more.length < n := by
              rw [← hn, List.length_cons, List.length_append]
              omega
            rw [List.cons_append, List.append_assoc, decode_scalar hc, decode_scalar hc,
              ih _ hlt more rfl, List.cons_append]
          · rw [List.cons_append, decode_stray (front_stray_append_ascii hb hstray t),
              decode_stray hstray, ih _ (by rw [← hn]; simp) s rfl, List.cons_append]

end ComponentCompiler.Utf8

namespace ComponentCompiler.Text

/-! ## Ink -/

/-- A text with a character that is no white space. -/
def HasInk (s : Bytes) : Prop := ∃ r ∈ Utf8.decode s, isBlankRune r = false

theorem hasInk_append_ascii {b : UInt8} (hb : b < 0x80) (s t : Bytes) :
    HasInk (s ++ b :: t) ↔ HasInk s ∨ isBlank (Char.ofNat b.toNat) = false ∨ HasInk t := by
  simp only [HasInk, Utf8.decode_append_ascii hb, List.mem_append, List.mem_cons, or_and_right,
    exists_or, exists_eq_left, isBlankRune]

/-- A plain byte that is no white space. -/
def isInkByte (b : UInt8) : Bool := b < 0x80 && !isBlank (Char.ofNat b.toNat)

theorem hasInk_of_mem {b : UInt8} {s : Bytes} (hs : b ∈ s) (hb : isInkByte b) : HasInk s := by
  obtain ⟨u, v, rfl⟩ := List.append_of_mem hs
  simp only [isInkByte, Bool.and_eq_true, decide_eq_true_eq, Bool.not_eq_true'] at hb
  exact (hasInk_append_ascii hb.1 u v).mpr (.inr (.inl hb.2))

/-- Plain bytes in front take no ink away. -/
theorem HasInk.ascii_append {u s : Bytes} (h : HasInk s) (hu : ∀ b ∈ u, b < 0x80) :
    HasInk (u ++ s) := by
  induction u with
  | nil => exact h
  | cons b u ih =>
      obtain ⟨hb, hu⟩ := List.forall_mem_cons.mp hu
      exact (hasInk_append_ascii hb [] (u ++ s)).mpr (.inr (.inr (ih hu)))

theorem trimRunes_eq_nil_iff (rs : List Rune) : trimRunes rs = [] ↔ ∀ r ∈ rs, isBlankRune r := by
  rw [trimRunes_eq, List.rdropWhile_eq_nil_iff, ← List.dropWhile_eq_nil_iff,
    List.dropWhile_idempotent, List.dropWhile_eq_nil_iff]

/-- Trimming leaves something of a text just in case it has ink. -/
theorem trim_ne_nil_iff (s : Bytes) : trim s ≠ [] ↔ HasInk s := by
  have hnil : trim s = [] ↔ trimRunes (Utf8.decode s) = [] := by
    constructor
    · intro h
      rw [← decode_trim, h, Utf8.decode_nil]
    · intro h
      rw [trim, h]
      rfl
  rw [ne_eq, hnil, trimRunes_eq_nil_iff, HasInk]
  simp

end ComponentCompiler.Text

namespace ComponentCompiler.Render

open Text (HasInk isInkByte)

/-! ## Lines -/

theorem isSpaceByte_lineBreak (depth : Nat) : ∀ b ∈ lineBreak depth, Script.isSpaceByte b := by
  have hindent : indent.all Script.isSpaceByte := by decide
  intro b hb
  rcases List.mem_cons.mp hb with rfl | hb
  · decide
  · obtain ⟨piece, hpiece, hb⟩ := List.mem_flatten.mp hb
    rw [List.eq_of_mem_replicate hpiece] at hb
    exact List.all_eq_true.mp hindent b hb

theorem ascii_of_isSpaceByte {b : UInt8} (h : Script.isSpaceByte b) : b < 0x80 := by
  simp only [Script.isSpaceByte, Bool.or_eq_true, beq_iff_eq] at h
  rcases h with ((((rfl | rfl) | rfl) | rfl) | rfl) | rfl <;> decide

theorem ascii_lineBreak (depth : Nat) : ∀ b ∈ lineBreak depth, b < 0x80 := fun b hb =>
  ascii_of_isSpaceByte (isSpaceByte_lineBreak depth b hb)

/-- Lines behind a text, each after a line break. -/
def followingLines (lines : List (Nat × Bytes)) : Bytes :=
  lines.flatMap fun l => lineBreak l.1 ++ l.2

theorem printLines_cons (l : Nat × Bytes) (lines : List (Nat × Bytes)) :
    printLines (l :: lines) = l.2 ++ followingLines lines := rfl

theorem hasInk_append_lineBreak {s : Bytes} (h : HasInk s) (depth : Nat) (t : Bytes) :
    HasInk (s ++ (lineBreak depth ++ t)) := (Text.hasInk_append_ascii (by decide) s _).mpr (.inl h)

theorem hasInk_append_followingLines {s : Bytes} {lines : List (Nat × Bytes)}
    (h : HasInk s ∨ ∃ l ∈ lines, HasInk l.2) : HasInk (s ++ followingLines lines) := by
  induction lines generalizing s with
  | nil =>
      rcases h with h | ⟨l, hl, _⟩
      · rwa [followingLines, List.flatMap_nil, List.append_nil]
      · cases hl
  | cons first lines ih =>
      rw [followingLines, List.flatMap_cons, List.append_assoc]
      rcases h with h | ⟨l, hl, h⟩
      · exact hasInk_append_lineBreak h first.1 _
      · have hrest : HasInk (first.2 ++ followingLines lines) := by
          rcases List.mem_cons.mp hl with rfl | hl
          · exact ih (.inl h)
          · exact ih (.inr ⟨l, hl, h⟩)
        exact (Text.hasInk_append_ascii (by decide) s _).mpr
          (.inr (.inr (hrest.ascii_append fun b hb =>
          ascii_lineBreak first.1 b (List.mem_cons_of_mem _ hb))))

/-- Lines have ink if one of them has. -/
theorem hasInk_printLines {lines : List (Nat × Bytes)} {l : Nat × Bytes} (hl : l ∈ lines)
    (h : HasInk l.2) :
    HasInk (printLines lines) := by
  cases lines with
  | nil => cases hl
  | cons first lines =>
      rw [printLines_cons]
      rcases List.mem_cons.mp hl with rfl | hl
      · exact hasInk_append_followingLines (.inl h)
      · exact hasInk_append_followingLines (.inr ⟨l, hl, h⟩)

namespace Expr

/-! ## Solid expressions -/

mutual

/-- The items of an expression at any depth: the children of its calls and the items
of its blocks. -/
def inner : Expr → List Expr
  | call _ _ children => innerAll children
  | block _ items _ => innerAll items
  | hole | factory .. | raw _ | literal _ => []

/-- The expressions of a list and their items at any depth. -/
def innerAll : List Expr → List Expr
  | [] => []
  | e :: es => e :: (inner e ++ innerAll es)

end

mutual

/-- An expression with no empty item at any depth. Its literals have ink, and the code around the
items of its blocks is trimmed. -/
def Solid : Expr → Prop
  | call _ _ children => SolidAll children
  | block head items tail => Text.trim head = head ∧ Text.trim tail = tail ∧ SolidAll items
  | literal quoted => HasInk quoted
  | hole | factory .. | raw _ => True

/-- Items none of which is empty or has an empty item at any depth. -/
def SolidAll : List Expr → Prop
  | [] => True
  | e :: es => (isEmpty e = false ∧ Solid e) ∧ SolidAll es

end

/-- An item as compiling keeps it. -/
def Kept (e : Expr) : Prop := e.isEmpty = false ∧ e.Solid

theorem solidAll_iff {es : List Expr} : SolidAll es ↔ ∀ e ∈ es, e.Kept := by
  induction es with
  | nil => simp [SolidAll]
  | cons e es ih => simp [SolidAll, ih, Kept]

mutual

theorem Solid.of_mem_inner : ∀ {e : Expr}, e.Solid → ∀ {x : Expr}, x ∈ e.inner → x.Kept
  | call .., h, _, hx => SolidAll.of_mem_innerAll h hx
  | block .., h, _, hx => SolidAll.of_mem_innerAll h.2.2 hx
  | hole, _, _, hx => by cases hx
  | factory .., _, _, hx => by cases hx
  | raw _, _, _, hx => by cases hx
  | literal _, _, _, hx => by cases hx

theorem SolidAll.of_mem_innerAll :
    ∀ {es : List Expr}, SolidAll es → ∀ {x : Expr}, x ∈ innerAll es → x.Kept
  | [], _, _, hx => by cases hx
  | e :: es, h, x, hx => by
      rw [innerAll, List.mem_cons, List.mem_append] at hx
      rcases hx with rfl | hx | hx
      · exact h.1
      · exact h.1.2.of_mem_inner hx
      · exact SolidAll.of_mem_innerAll h.2 hx

end

/-- The first of several items is printed with or without a comma behind it. -/
theorem exists_hasInk_commaEnded {item : Bytes} (h : HasInk item) (items : List Bytes) :
    ∃ x ∈ commaEnded (item :: items), HasInk x := by
  cases items with
  | nil => exact ⟨item, List.mem_cons_self, h⟩
  | cons next items =>
      exact ⟨item ++ [Ascii.comma], List.mem_cons_self,
        (Text.hasInk_append_ascii (by decide) item []).mpr (.inl h)⟩

/-- A block has ink if its head, its tail or its first item has. -/
theorem hasInk_printBlock {depth : Nat} {head tail : Bytes} {items : List Bytes}
    (h : HasInk head ∨ HasInk tail ∨ ∃ item ∈ items.head?, HasInk item) :
    HasInk (printBlock depth head items tail) := by
  have hne : ∀ {code : Bytes}, HasInk code → code ≠ [] := by
    rintro _ ⟨r, hr, _⟩ rfl
    simp at hr
  unfold printBlock
  rcases h with h | h | ⟨item, hitem, h⟩
  · exact hasInk_printLines (l := (depth, head)) (by simp [hne h]) h
  · exact hasInk_printLines (l := (depth, tail)) (by simp [hne h]) h
  · obtain ⟨items, rfl⟩ := List.head?_eq_some_iff.mp hitem
    obtain ⟨x, hx, hink⟩ := exists_hasInk_commaEnded h items
    exact hasInk_printLines (l := (itemDepth depth head, x)) (by simp [hx]) hink

/-- A solid expression that is not empty prints ink. -/
theorem Solid.hasInk_print :
    ∀ {e : Expr}, e.Solid → e.isEmpty = false → ∀ depth, HasInk (e.print depth)
  | hole, _, hempty, _ => by cases hempty
  | call .., _, _, _ => by
      have hparen : Ascii.openParen ∈ Bytes.lit "(" := by decide
      exact Text.hasInk_of_mem (b := Ascii.openParen) (by simp [print, hparen]) (by decide)
  | factory .., _, _, _ => by
      have hparen : Ascii.openParen ∈ Bytes.lit "(" := by decide
      exact Text.hasInk_of_mem (b := Ascii.openParen) (by simp [print, hparen]) (by decide)
  | raw code, _, hempty, _ => by
      rw [isEmpty, beq_eq_false_iff_ne, Text.trim_ne_nil_iff] at hempty
      exact hempty
  | literal _, h, _, _ => h
  | block head items tail, ⟨hhead, htail, hitems⟩, hempty, depth => by
      rw [print]
      apply hasInk_printBlock
      by_cases hh : head = []
      · by_cases ht : tail = []
        · cases items with
          | nil => simp [isEmpty, allEmpty, hh, ht] at hempty
          | cons e es =>
              exact .inr (.inr ⟨_, rfl, hitems.1.2.hasInk_print hitems.1.1 _⟩)
        · exact .inr (.inl ((Text.trim_ne_nil_iff tail).mp (by rwa [htail])))
      · exact .inl ((Text.trim_ne_nil_iff head).mp (by rwa [hhead]))

theorem SolidAll.hasInk_printAll {es : List Expr} (h : SolidAll es) (depth : Nat) :
    ∀ x ∈ printAll es depth, HasInk x := by
  induction es with
  | nil => simp [printAll]
  | cons e es ih =>
      rw [printAll, List.forall_mem_cons]
      exact ⟨h.1.2.hasInk_print h.1.1 depth, ih h.2⟩

end Expr

/-! ## Separators -/

/-- The text `x` with white space around it. -/
def Padded (x padded : Bytes) : Prop :=
  ∃ u v, padded = u ++ (x ++ v) ∧ (∀ b ∈ u, Script.isSpaceByte b) ∧ ∀ b ∈ v, Script.isSpaceByte b

/-- Between `front` and `back`, the text lists `items`: there is one element for each, which is
the item with white space around it, each two elements have a comma between them, and all of
them have ink. -/
def Lists (items : List Bytes) (front back text : Bytes) : Prop :=
  ∃ elements, List.Forall₂ Padded items elements ∧ (∀ x ∈ elements, HasInk x) ∧
    text = front ++ ([Ascii.comma].intercalate elements ++ back)

theorem padded_self (x : Bytes) : Padded x x := ⟨[], [], by simp, by simp, by simp⟩

theorem padded_lineBreak (depth : Nat) (x : Bytes) : Padded x (lineBreak depth ++ x) :=
  ⟨lineBreak depth, [], by simp, isSpaceByte_lineBreak depth, by simp⟩

theorem padded_lineBreaks (depth depth' : Nat) (x : Bytes) :
    Padded x (lineBreak depth ++ (x ++ lineBreak depth')) :=
  ⟨lineBreak depth, lineBreak depth', rfl, isSpaceByte_lineBreak depth,
    isSpaceByte_lineBreak depth'⟩

theorem hasInk_lineBreak_append {x : Bytes} (h : HasInk x) (depth : Nat) :
    HasInk (lineBreak depth ++ x) :=
  h.ascii_append (ascii_lineBreak depth)

/-- The last line break of a child list belongs to its last element. -/
theorem exists_elements_printChildren {items : List Bytes} (hitems : items ≠ [])
    (hink : ∀ x ∈ items, HasInk x) (depth depth' : Nat) :
    ∃ elements, List.Forall₂ Padded items elements ∧ (∀ x ∈ elements, HasInk x) ∧
      [Ascii.comma].intercalate (items.map (lineBreak depth ++ ·)) ++ lineBreak depth' =
        [Ascii.comma].intercalate elements := by
  induction items with
  | nil => exact absurd rfl hitems
  | cons item items ih =>
      obtain ⟨hitem, hink⟩ := List.forall_mem_cons.mp hink
      cases items with
      | nil =>
          refine ⟨[lineBreak depth ++ (item ++ lineBreak depth')],
            .cons (padded_lineBreaks _ _ _) .nil, ?_, ?_⟩
          · have hend := hasInk_append_lineBreak hitem depth' []
            rw [List.append_nil] at hend
            simpa using hasInk_lineBreak_append hend depth
          · simp
      | cons next items =>
          obtain ⟨elements, hpadded, hinks, heq⟩ := ih (by simp) hink
          refine ⟨(lineBreak depth ++ item) :: elements,
            .cons (padded_lineBreak depth item) hpadded, ?_, ?_⟩
          · exact List.forall_mem_cons.mpr ⟨hasInk_lineBreak_append hitem depth, hinks⟩
          · have hne : elements ≠ [] := by
              rintro rfl
              cases hpadded
            rw [List.map_cons, List.intercalate_cons_of_ne_nil (by simp),
              List.intercalate_cons_of_ne_nil hne, ← heq]
            simp

theorem followingLines_append (lines lines' : List (Nat × Bytes)) :
    followingLines (lines ++ lines') = followingLines lines ++ followingLines lines' :=
  List.flatMap_append

theorem followingLines_commaEnded (depth : Nat) (items : List Bytes) :
    followingLines ((commaEnded items).map fun item => (depth, item)) =
      [Ascii.comma].intercalate (items.map (lineBreak depth ++ ·)) := by
  induction items with
  | nil => rfl
  | cons item items ih =>
      cases items with
      | nil => simp [commaEnded, followingLines]
      | cons next items =>
          rw [List.map_cons, List.intercalate_cons_of_ne_nil (by simp), ← ih, commaEnded,
            List.map_cons, followingLines, List.flatMap_cons, followingLines]
          · simp
          · simp

/-- What is printed behind the items of a block. -/
def blockEnd (depth : Nat) (tail : Bytes) : Bytes :=
  if tail = [] then [] else lineBreak depth ++ tail

theorem printBlock_eq (depth : Nat) (head item : Bytes) (items : List Bytes) (tail : Bytes) :
    printBlock depth head (item :: items) tail =
      head ++ ([Ascii.comma].intercalate
        ((if head = [] then item else lineBreak (itemDepth depth head) ++ item) ::
          items.map (lineBreak (itemDepth depth head) ++ ·)) ++ blockEnd depth tail) := by
  have hend : followingLines (if tail = [] then [] else [(depth, tail)]) = blockEnd depth tail := by
    unfold blockEnd
    split
    · rfl
    · simp [followingLines]
  unfold printBlock
  by_cases hhead : head = []
  · rw [if_pos hhead, if_pos hhead, List.nil_append, hhead, List.nil_append]
    cases items with
    | nil => simp [commaEnded, printLines_cons, hend]
    | cons next items =>
        rw [List.intercalate_cons_of_ne_nil (by simp), ← followingLines_commaEnded, commaEnded,
          List.map_cons, List.cons_append, printLines_cons, followingLines_append, hend]
        · simp
        · simp
  · rw [if_neg hhead, if_neg hhead, List.singleton_append, List.cons_append, printLines_cons,
      followingLines_append, hend, followingLines_commaEnded, List.map_cons]

namespace Expr

/-- What is printed of a call in front of its children. -/
def callStart (tag : Bytes) (props : List Property) : Bytes :=
  constructorName ++ Bytes.lit "(" ++ Script.quote tag ++ Bytes.lit ", " ++ printProps props ++
    Bytes.lit ", "

theorem Solid.lists_call {tag : Bytes} {props : List Property} {children : List Expr}
    (h : (call tag props children).Solid) (depth : Nat) :
    Lists (printAll children (depth + 1)) (callStart tag props ++ [Ascii.openBracket])
      [Ascii.closeBracket, Ascii.closeParen] ((call tag props children).print depth) := by
  have hends :
      Bytes.lit "[]" = [Ascii.openBracket, Ascii.closeBracket] ∧
        Bytes.lit ")" = [Ascii.closeParen] := by
    decide
  have hink := SolidAll.hasInk_printAll h (depth + 1)
  rw [print, hends.2]
  cases hitems : printAll children (depth + 1) with
  | nil =>
      rw [printChildren, hends.1]
      exact ⟨[], .nil, by simp, by simp [callStart]⟩
  | cons item items =>
      rw [hitems] at hink
      obtain ⟨elements, hpadded, hinks, heq⟩ :=
        exists_elements_printChildren (List.cons_ne_nil item items) hink (depth + 1) depth
      exact ⟨elements, hpadded, hinks, by simp [printChildren, callStart, ← heq]⟩

theorem Solid.lists_block {head tail : Bytes} {items : List Expr}
    (h : (block head items tail).Solid) (hitems : items ≠ []) (depth : Nat) :
    Lists (printAll items (itemDepth depth head)) head (blockEnd depth tail)
      ((block head items tail).print depth) := by
  have hink := SolidAll.hasInk_printAll h.2.2 (itemDepth depth head)
  rw [print]
  cases hprinted : printAll items (itemDepth depth head) with
  | nil =>
      cases items with
      | nil => exact absurd rfl hitems
      | cons e es => cases hprinted
  | cons item rest =>
      rw [hprinted] at hink
      obtain ⟨hitem, hrest⟩ := List.forall_mem_cons.mp hink
      refine ⟨_, .cons ?_
        (List.forall₂_map_right_iff.mpr (List.forall₂_same.mpr fun x _ => padded_lineBreak _ x)),
        List.forall_mem_cons.mpr
          ⟨?_, List.forall_mem_map.mpr fun x hx => hasInk_lineBreak_append (hrest x hx) _⟩,
        printBlock_eq depth head item rest tail⟩
      · split
        · exact padded_self item
        · exact padded_lineBreak _ item
      · split
        · exact hitem
        · exact hasInk_lineBreak_append hitem _

end Expr

end ComponentCompiler.Render

namespace ComponentCompiler.Script

theorem hasInk_quoteText (s : Bytes) : Text.HasInk (quoteText s) := by
  unfold quoteText
  split
  · rename_i hquoted
    cases s with
    | nil => cases hquoted
    | cons q rest =>
        simp only [isQuoted, Bool.and_eq_true, Bool.or_eq_true, beq_iff_eq] at hquoted
        refine Text.hasInk_of_mem List.mem_cons_self ?_
        rcases hquoted.1 with (rfl | rfl) | rfl <;> decide
  · exact Text.hasInk_of_mem (b := Ascii.quote) (by simp [quote]) (by decide)

end ComponentCompiler.Script

namespace ComponentCompiler.Template

open Markup (Node)
open Render (Expr Lists)

/-! ## Compiling keeps no empty item -/

namespace Frames

/-- The items collected so far are as compiling keeps them, and the heads of open expressions are
trimmed. -/
structure Tidy (f : Frames) : Prop where
  base : ∀ e ∈ f.base, e.Kept
  heads : ∀ frame ∈ f.opened, Text.trim frame.head = frame.head
  items : ∀ frame ∈ f.opened, ∀ e ∈ frame.items, e.Kept

theorem tidy_empty : Tidy {} := ⟨by simp, by simp, by simp⟩

theorem Tidy.add {f : Frames} (h : f.Tidy) {e : Expr} (he : e.Solid) : (f.add e).Tidy := by
  cases hempty : e.isEmpty with
  | true => rwa [add_of_isEmpty hempty]
  | false =>
      have hkept : e.Kept := ⟨hempty, he⟩
      rw [Frames.add, if_neg (by simp [hempty])]
      cases hopened : f.opened with
      | nil => exact ⟨List.forall_mem_cons.mpr ⟨hkept, h.base⟩, by simp, by simp⟩
      | cons top rest =>
          have hheads := h.heads
          have hitems := h.items
          rw [hopened] at hheads hitems
          obtain ⟨htop, hrest⟩ := List.forall_mem_cons.mp hheads
          obtain ⟨htop', hrest'⟩ := List.forall_mem_cons.mp hitems
          exact ⟨h.base, List.forall_mem_cons.mpr ⟨htop, hrest⟩,
            List.forall_mem_cons.mpr ⟨List.forall_mem_cons.mpr ⟨hkept, htop'⟩, hrest'⟩⟩

theorem Tidy.push {f : Frames} (h : f.Tidy) {head : Bytes} (hhead : Text.trim head = head)
    (line : Int) :
    (f.push head line).Tidy where
  base := h.base
  heads := List.forall_mem_cons.mpr ⟨hhead, h.heads⟩
  items := List.forall_mem_cons.mpr ⟨by simp, h.items⟩

/-- A block is added like any other item when its expression is closed. -/
theorem Tidy.pop {f : Frames} (h : f.Tidy) {tail : Bytes} (htail : Text.trim tail = tail) :
    (f.pop tail).Tidy := by
  unfold Frames.pop
  cases hopened : f.opened with
  | nil => exact h
  | cons top rest =>
      have hheads := h.heads
      have hitems := h.items
      rw [hopened] at hheads hitems
      obtain ⟨htop, hrest⟩ := List.forall_mem_cons.mp hheads
      obtain ⟨htop', hrest'⟩ := List.forall_mem_cons.mp hitems
      have hblock : (Expr.block top.head top.items.reverse tail).Solid :=
        ⟨htop, htail, Expr.solidAll_iff.mpr fun e he => htop' e (List.mem_reverse.mp he)⟩
      exact Tidy.add (f := { f with opened := rest }) ⟨h.base, hrest, hrest'⟩ hblock

end Frames

theorem tidy_addText {f : Frames} (h : f.Tidy) (data : Bytes) (line : Int) :
    (addText f data line).Tidy := by
  unfold addText
  dsimp only
  split
  · exact h
  · exact h.add trivial
  · exact h.push (Text.trim_trim _) _
  · exact h.pop (Text.trim_trim _)
  · exact h.add (Script.hasInk_quoteText _)

mutual

theorem solid_of_compileElement {registry : Registry} {block : Bytes} :
    ∀ {n : Node} {e : Expr}, (compileElement registry block n).result = .ok e → e.Solid
  | .text .., e, h => by
      obtain rfl := Except.ok.inj h
      trivial
  | .element tag attrs children line, e, h => by
      rw [compileElement, Outcome.bind_eq_ok] at h
      obtain ⟨f, hchildren, hfinish⟩ := h
      obtain ⟨_, rfl⟩ := finishElement_eq_ok hfinish
      have htidy := tidy_compileChildren Frames.tidy_empty hchildren
      exact Expr.solidAll_iff.mpr fun e he => htidy.base e (List.mem_reverse.mp he)

theorem tidy_compileChildren {registry : Registry} {block : Bytes} :
    ∀ {ns : List Node} {f f' : Frames}, f.Tidy →
      (compileChildren registry block ns f).result = .ok f' → f'.Tidy
  | [], f, f', hf, h => by
      obtain rfl : f = f' := Except.ok.inj h
      exact hf
  | .text data line :: ns, f, f', hf, h => by
      rw [compileChildren] at h
      exact tidy_compileChildren (tidy_addText hf data line) h
  | .element tag attrs children line :: ns, f, f', hf, h => by
      rw [compileChildren] at h
      cases hkey : registry.lookup? tag with
      | some key =>
          rw [hkey] at h
          obtain ⟨_, _, h⟩ := Outcome.bind_eq_ok.mp h
          exact tidy_compileChildren (hf.add (e := .factory key (factoryProps attrs)) trivial) h
      | none =>
          rw [hkey] at h
          obtain ⟨call, hcall, h⟩ := Outcome.bind_eq_ok.mp h
          exact tidy_compileChildren (hf.add (solid_of_compileElement hcall)) h

end

/-- Compiled child lists have no holes. No item of a compiled element, at any depth, is empty, and
each prints ink at any indentation. So each call prints its children, and each block its items, with
one separator between each two of them: no separator stands next to another one, behind the opening
bracket or in front of the closing one. -/
theorem compileElement_leaves_no_holes {registry : Registry} {block : Bytes} {n : Node} {e : Expr}
    (h : (compileElement registry block n).result = .ok e) :
    (∀ x ∈ e.inner, x.isEmpty = false ∧ ∀ depth, Text.HasInk (x.print depth)) ∧
    (∀ tag props children, .call tag props children ∈ e :: e.inner → ∀ depth,
      Lists (Expr.printAll children (depth + 1)) (Expr.callStart tag props ++ [Ascii.openBracket])
        [Ascii.closeBracket, Ascii.closeParen] ((Expr.call tag props children).print depth)) ∧
    ∀ head items tail, .block head items tail ∈ e.inner → items ≠ [] → ∀ depth,
      Lists (Expr.printAll items (Render.itemDepth depth head)) head (Render.blockEnd depth tail)
        ((Expr.block head items tail).print depth) := by
  have hsolid := solid_of_compileElement h
  refine ⟨fun x hx => ?_, fun tag props children hcall depth => ?_,
    fun head items tail hblock hitems depth => ?_⟩
  · obtain ⟨hempty, hx⟩ := hsolid.of_mem_inner hx
    exact ⟨hempty, hx.hasInk_print hempty⟩
  · rcases List.mem_cons.mp hcall with rfl | hcall
    · exact hsolid.lists_call depth
    · exact (hsolid.of_mem_inner hcall).2.lists_call depth
  · exact (hsolid.of_mem_inner hblock).2.lists_block hitems depth

/-- A list with an expression around nothing, an empty expression, and an expression with no code of
its own around two elements. -/
def hollowList : Node :=
  .element (Bytes.lit "ul") []
    [.text [Ascii.openBrace] 1, .text [Ascii.closeBrace] 1, .text (Bytes.lit "{ }") 2,
      .text [Ascii.openBrace] 3, .element (Bytes.lit "br") [] [] 3,
        .element (Bytes.lit "row") [] [] 3,
      .text [Ascii.closeBrace] 4] 1

/-- The one child that the list keeps. -/
def hollowBlock : Expr := .block [] [.call (Bytes.lit "br") [] [], .factory (Bytes.lit "Row") []] []

set_option maxRecDepth 4000 in
theorem compileElement_leaves_no_holes_hollow :
    (compileElement (.ofKeys [Bytes.lit "Row"]) [] hollowList).result =
      .ok (.call (Bytes.lit "ul") [] [hollowBlock]) ∧
    hollowBlock.isEmpty = false ∧ Text.HasInk (hollowBlock.print 2) ∧
    Lists [Bytes.lit "h(\"br\", {}, [])", Bytes.lit "Row({})"] [] [] (hollowBlock.print 2) := by
  have hok : (compileElement (.ofKeys [Bytes.lit "Row"]) [] hollowList).result =
      .ok (.call (Bytes.lit "ul") [] [hollowBlock]) := by cbv
  obtain ⟨hitems, _, hblocks⟩ := compileElement_leaves_no_holes hok
  have hmem : hollowBlock ∈ (Expr.call (Bytes.lit "ul") [] [hollowBlock]).inner :=
    List.mem_cons_self
  have hprinted : Expr.printAll [.call (Bytes.lit "br") [] [], .factory (Bytes.lit "Row") []]
      (Render.itemDepth 2 []) = [Bytes.lit "h(\"br\", {}, [])", Bytes.lit "Row({})"] := by
    decide +kernel
  obtain ⟨hempty, hink⟩ := hitems hollowBlock hmem
  exact ⟨hok, hempty, hink 2, hprinted ▸ hblocks _ _ _ hmem (by simp) 2⟩

end ComponentCompiler.Template
