import ComponentCompiler.Template.Block
import Mathlib

/-!
# Sorting template blocks

Blocks are told apart by their keys in lower case, while the main block is found by case folding.
Sorting succeeds exactly if all keys are there and differ in lower case and some key folds to the
name (`classify_eq_ok_iff`). Keys that differ in lower case can still fold to one name; then the
last of them stays and the ones before it are in neither part.
-/

namespace ComponentCompiler.Template

open Markup (Node)

variable {name container : Bytes} {n : Node} {ns : List Node} {s s' : Sorting}

/-- Whether the key of a template element is the component's name, case aside. -/
def matchesName (name : Bytes) (n : Node) : Bool := (blockKey? n).any (Text.equalFold · name)

/-- The key of a template element in lower case. -/
def foldedKey? (n : Node) : Option Bytes := (blockKey? n).map Text.toLower

/-- The block that a template element is normalised to. -/
def blockOf (container : Bytes) (n : Node) : Block :=
  Block.ofNode ((blockKey? n).getD []) container n

/-- All template elements have keys, and no two keys have one lower-case form. -/
structure KeysDiffer (nodes : List Node) : Prop where
  named : ∀ n ∈ nodes, (blockKey? n).isSome
  nodup : (nodes.map foldedKey?).Nodup

section

variable {key : Bytes} (hkey : blockKey? n = some key)

include hkey

theorem foldedKey?_eq : foldedKey? n = some (Text.toLower key) := by
  rw [foldedKey?, hkey, Option.map_some]

theorem matchesName_eq : matchesName name n = Text.equalFold key name := by
  rw [matchesName, hkey, Option.any_some]

theorem blockOf_eq : blockOf container n = Block.ofNode key container n := by
  rw [blockOf, hkey, Option.getD_some]

theorem keysDiffer_cons :
    KeysDiffer (n :: ns) ↔ KeysDiffer ns ∧ ∀ m ∈ ns, foldedKey? m ≠ some (Text.toLower key) := by
  constructor
  · rintro ⟨hnamed, hnodup⟩
    rw [List.map_cons, List.nodup_cons, foldedKey?_eq hkey] at hnodup
    refine ⟨⟨fun m hm => hnamed m (List.mem_cons_of_mem n hm), hnodup.2⟩, ?_⟩
    intro m hm heq
    exact hnodup.1 (heq ▸ List.mem_map_of_mem hm)
  · rintro ⟨⟨hnamed, hnodup⟩, hne⟩
    refine ⟨List.forall_mem_cons.mpr ⟨by rw [hkey]; rfl, hnamed⟩, ?_⟩
    rw [List.map_cons, List.nodup_cons, foldedKey?_eq hkey]
    refine ⟨?_, hnodup⟩
    intro hmem
    obtain ⟨m, hm, heq⟩ := List.mem_map.mp hmem
    exact hne m hm heq

end

theorem KeysDiffer.perm {ms : List Node} (hperm : ns.Perm ms) (h : KeysDiffer ns) :
    KeysDiffer ms where
  named := fun n hn => h.named n (hperm.mem_iff.mpr hn)
  nodup := (hperm.map foldedKey?).nodup_iff.mp h.nodup

/-! ## Sorting one by one -/

namespace Sorting

/-- The lower-case forms of the keys met so far. -/
def seenKeys (s : Sorting) : List Bytes := s.seen.map (·.1)

theorem lookup_eq_none_iff (s : Sorting) (folded : Bytes) :
    s.seen.lookup folded = none ↔ folded ∉ s.seenKeys := by
  rw [List.lookup_eq_none_iff, seenKeys, List.mem_map]
  constructor
  · rintro h ⟨x, hx, rfl⟩
    simpa using h x hx
  · intro h x hx
    rw [bne_iff_ne]
    rintro rfl
    exact h ⟨x, hx, rfl⟩

/-- The sorting after a block whose key is new. -/
def meet (name container key : Bytes) (s : Sorting) (n : Node) : Sorting where
  seen := (Text.toLower key, n.line) :: s.seen
  main := if matchesName name n then some (blockOf container n) else s.main
  subs := if matchesName name n then s.subs else s.subs ++ [blockOf container n]

theorem add_of_not_mem {key : Bytes} (hkey : blockKey? n = some key)
    (hseen : Text.toLower key ∉ s.seenKeys) :
    s.add name container n = .ok (s.meet name container key n) := by
  rw [add, hkey, meet, matchesName_eq hkey, blockOf_eq hkey]
  dsimp only
  rw [(lookup_eq_none_iff s _).mpr hseen]
  cases Text.equalFold key name <;> rfl

theorem add_of_mem {key : Bytes} (hkey : blockKey? n = some key)
    (hseen : Text.toLower key ∈ s.seenKeys) :
    ∃ fault, s.add name container n = .error fault := by
  rw [add, hkey]
  dsimp only
  cases hlookup : s.seen.lookup (Text.toLower key) with
  | none => exact absurd hseen ((lookup_eq_none_iff s _).mp hlookup)
  | some first => exact ⟨_, rfl⟩

/-- What the blocks behind the first one must not be called. -/
theorem not_mem_seenKeys_meet {key : Bytes} (hkey : blockKey? n = some key)
    (hseen : Text.toLower key ∉ s.seenKeys) :
    (∀ m ∈ ns, ∀ folded, foldedKey? m = some folded →
      folded ∉ (s.meet name container key n).seenKeys) ↔
      (∀ m ∈ ns, foldedKey? m ≠ some (Text.toLower key)) ∧
        ∀ m ∈ n :: ns, ∀ folded, foldedKey? m = some folded → folded ∉ s.seenKeys := by
  have hkeys : (s.meet name container key n).seenKeys = Text.toLower key :: s.seenKeys := rfl
  rw [hkeys, List.forall_mem_cons, foldedKey?_eq hkey]
  constructor
  · intro h
    refine ⟨?_, by simpa using hseen, ?_⟩
    · intro m hm heq
      exact h m hm _ heq List.mem_cons_self
    · intro m hm folded heq hmem
      exact h m hm folded heq (List.mem_cons_of_mem _ hmem)
  · rintro ⟨hne, _, hold⟩ m hm folded heq hmem
    rcases List.mem_cons.mp hmem with rfl | hmem
    · exact hne m hm heq
    · exact hold m hm folded heq hmem

theorem main_meet (key : Bytes) (n : Node) (ns : List Node) :
    (((ns.filter (matchesName name)).map (blockOf container)).getLast?).or
      (s.meet name container key n).main =
      ((((n :: ns).filter (matchesName name)).map (blockOf container)).getLast?).or s.main := by
  cases hmatches : matchesName name n <;> simp [meet, hmatches, List.getLast?_cons]

theorem subs_meet (key : Bytes) (n : Node) (ns : List Node) :
    (s.meet name container key n).subs ++
      (ns.filter fun n => !matchesName name n).map (blockOf container) =
      s.subs ++ ((n :: ns).filter fun n => !matchesName name n).map (blockOf container) := by
  cases hmatches : matchesName name n <;> simp [meet, hmatches]

/-- Sorting goes through exactly if the keys are there, differ, and were not met before. The main
block is the last one that matches, the sub-components are the others. -/
theorem addAll_eq_ok_iff {main : Option Block} {subs : List Block} :
    (∃ seen, addAll name container s ns = .ok ⟨seen, main, subs⟩) ↔
      KeysDiffer ns ∧ (∀ n ∈ ns, ∀ folded, foldedKey? n = some folded → folded ∉ s.seenKeys) ∧
      main = (((ns.filter (matchesName name)).map (blockOf container)).getLast?).or s.main ∧
      subs = s.subs ++ (ns.filter fun n => !matchesName name n).map (blockOf container) := by
  induction ns generalizing s with
  | nil =>
      obtain ⟨seen, main', subs'⟩ := s
      have hempty : KeysDiffer [] := ⟨by simp, List.nodup_nil⟩
      simp [addAll, hempty, eq_comm]
  | cons n ns ih =>
      cases hkey : blockKey? n with
      | none =>
          -- an element without a key ends the sorting
          refine iff_of_false ?_ ?_
          · rintro ⟨seen, h⟩
            rw [addAll, add, hkey] at h
            cases h
          · rintro ⟨⟨hnamed, _⟩, _⟩
            have hn := hnamed n List.mem_cons_self
            rw [hkey] at hn
            cases hn
      | some key =>
          by_cases hseen : Text.toLower key ∈ s.seenKeys
          · -- and so does a key that was met before
            refine iff_of_false ?_ ?_
            · rintro ⟨seen, h⟩
              obtain ⟨fault, hfault⟩ := add_of_mem hkey hseen
              rw [addAll, hfault] at h
              cases h
            · rintro ⟨_, hnew, _⟩
              exact hnew n List.mem_cons_self _ (foldedKey?_eq hkey) hseen
          · rw [addAll, add_of_not_mem hkey hseen, Except.bind, ih, keysDiffer_cons hkey,
              not_mem_seenKeys_meet hkey hseen, main_meet, subs_meet]
            simp only [and_assoc]

end Sorting

/-- Sorting succeeds exactly if the keys are there and differ and one of them matches the name. The
last one that matches is the main block, and those that do not match are the sub-components, in
document order. -/
theorem classify_eq_ok_iff {nodes : List Node} {blocks : Blocks} :
    classify nodes name container = .ok blocks ↔
      KeysDiffer nodes ∧
      ((nodes.filter (matchesName name)).map (blockOf container)).getLast? = some blocks.main ∧
      blocks.subs = (nodes.filter fun n => !matchesName name n).map (blockOf container) := by
  have hsorting : (∃ seen, Sorting.addAll name container {} nodes =
        .ok ⟨seen, some blocks.main, blocks.subs⟩) ↔
      KeysDiffer nodes ∧
      ((nodes.filter (matchesName name)).map (blockOf container)).getLast? = some blocks.main ∧
      blocks.subs = (nodes.filter fun n => !matchesName name n).map (blockOf container) := by
    rw [Sorting.addAll_eq_ok_iff, Option.or_none, List.nil_append, eq_comm (a := some blocks.main)]
    refine and_congr_right fun _ => ⟨And.right, fun h => ⟨?_, h⟩⟩
    exact fun _ _ _ _ => List.not_mem_nil
  rw [← hsorting, classify]
  constructor
  · intro h
    cases hsorted : Sorting.addAll name container {} nodes with
    | error fault =>
        rw [hsorted] at h
        cases h
    | ok s =>
        obtain ⟨seen, main, subs⟩ := s
        rw [hsorted, Except.bind] at h
        cases main with
        | none => cases h
        | some main =>
            injection h with h
            subst h
            exact ⟨seen, rfl⟩
  · rintro ⟨seen, h⟩
    rw [h]
    rfl

/-! ## What sorting loses -/

/-- The blocks that match the name and are not the last ones to do so. -/
def replacedBlocks (name container : Bytes) (nodes : List Node) : List Block :=
  ((nodes.filter (matchesName name)).map (blockOf container)).dropLast

/-- Every character of a byte string has a lower-case form that is also what it folds to. -/
def HasPlainCase (s : Bytes) : Prop :=
  ∀ r ∈ Utf8.decode s, Text.lowerCode r.code = Text.foldCode r.code

theorem toLower_eq_of_equalFold {x y : Bytes} (hx : HasPlainCase x) (hy : HasPlainCase y)
    (hxname : Text.equalFold x name) (hyname : Text.equalFold y name) :
    Text.toLower x = Text.toLower y := by
  have hfold : (Utf8.decode x).map (fun r => Text.foldCode r.code) =
      (Utf8.decode y).map (fun r => Text.foldCode r.code) :=
    (eq_of_beq hxname).trans (eq_of_beq hyname).symm
  have hcodes : ∀ z, HasPlainCase z →
      Text.toLower z =
        ((Utf8.decode z).map fun r => Text.foldCode r.code).flatMap Utf8.encodeCode := by
    intro z hz
    rw [Text.toLower, List.flatMap_map]
    exact List.flatMap_congr fun r hr => by rw [hz r hr]
  rw [hcodes x hx, hcodes y hy, hfold]

theorem perm_replacedBlocks {nodes : List Node} {blocks : Blocks}
    (h : classify nodes name container = .ok blocks) :
    (nodes.map (blockOf container)).Perm
      (replacedBlocks name container nodes ++ blocks.main :: blocks.subs) := by
  obtain ⟨_, hmain, hsubs⟩ := classify_eq_ok_iff.mp h
  have hmatching : (nodes.filter (matchesName name)).map (blockOf container) =
      replacedBlocks name container nodes ++ [blocks.main] :=
    (List.dropLast_append_getLast? _ hmain).symm
  have hparts := (List.filter_append_perm (matchesName name) nodes).symm.map (blockOf container)
  rw [List.map_append, hmatching, ← hsubs, List.append_assoc, List.singleton_append] at hparts
  exact hparts

theorem length_replacedBlocks {nodes : List Node} {blocks : Blocks}
    (h : classify nodes name container = .ok blocks) :
    nodes.countP (matchesName name) = (replacedBlocks name container nodes).length + 1 := by
  obtain ⟨_, hmain, _⟩ := classify_eq_ok_iff.mp h
  have hne : nodes.filter (matchesName name) ≠ [] := by
    intro hnil
    rw [hnil] at hmain
    cases hmain
  have hpos := List.length_pos_of_ne_nil hne
  rw [replacedBlocks, List.length_dropLast, List.length_map, List.countP_eq_length_filter]
  omega

/-- Two blocks of plain case that match the name would have one key. -/
theorem countP_le_one_of_hasPlainCase {nodes : List Node} (hkeys : KeysDiffer nodes)
    (hplain : ∀ n ∈ nodes, ∀ key ∈ blockKey? n, Text.equalFold key name → HasPlainCase key) :
    nodes.countP (matchesName name) ≤ 1 := by
  induction nodes with
  | nil => exact Nat.zero_le 1
  | cons n ns ih =>
      obtain ⟨key, hkey⟩ := Option.isSome_iff_exists.mp (hkeys.named n List.mem_cons_self)
      obtain ⟨hrest, hne⟩ := (keysDiffer_cons hkey).mp hkeys
      obtain ⟨hfirst, hothers⟩ := List.forall_mem_cons.mp hplain
      rw [List.countP_cons]
      by_cases hmatches : matchesName name n = true
      · have hname : Text.equalFold key name := by rwa [← matchesName_eq hkey]
        have hnone : ns.countP (matchesName name) = 0 := by
          rw [List.countP_eq_zero]
          intro m hm hmatch
          obtain ⟨other, hother⟩ := Option.isSome_iff_exists.mp (hrest.named m hm)
          have hname' : Text.equalFold other name := by rwa [← matchesName_eq hother]
          apply hne m hm
          rw [foldedKey?_eq hother, toLower_eq_of_equalFold (hothers m hm other hother hname')
            (hfirst key hkey hname) hname' hname]
        rw [hnone]
        split <;> omega
      · rw [if_neg hmatches]
        exact ih hrest hothers

/-- All blocks are kept, except those that match the name in front of the last one that
does. So none is lost exactly if one block matches, and this is so where the keys that match
are of plain case. -/
theorem classify_keeps_iff {nodes : List Node} {blocks : Blocks}
    (h : classify nodes name container = .ok blocks) :
    (nodes.map (blockOf container)).Perm
        (replacedBlocks name container nodes ++ blocks.main :: blocks.subs) ∧
    blocks.subs = (nodes.filter fun n => !matchesName name n).map (blockOf container) ∧
    ((nodes.map (blockOf container)).Perm (blocks.main :: blocks.subs) ↔
      nodes.countP (matchesName name) = 1) ∧
    (nodes.length = 1 + blocks.subs.length ↔ nodes.countP (matchesName name) = 1) ∧
    ((∀ n ∈ nodes, ∀ key ∈ blockKey? n, Text.equalFold key name → HasPlainCase key) →
      nodes.countP (matchesName name) = 1) := by
  have hperm := perm_replacedBlocks h
  have hcount := length_replacedBlocks h
  have hlength := hperm.length_eq
  rw [List.length_map, List.length_append, List.length_cons] at hlength
  refine ⟨hperm, (classify_eq_ok_iff.mp h).2.2, ⟨?_, ?_⟩, ?_, ?_⟩
  · intro hkept
    have hkept := hkept.length_eq
    rw [List.length_map, List.length_cons] at hkept
    omega
  · intro hone
    have hnone : replacedBlocks name container nodes = [] :=
      List.eq_nil_of_length_eq_zero (by omega)
    rwa [hnone, List.nil_append] at hperm
  · omega
  · intro hplain
    have hle := countP_le_one_of_hasPlainCase (classify_eq_ok_iff.mp h).1 hplain
    omega

/-- A template element with the given key. -/
def templateNamed (key : Bytes) (children : List Node) (line : Int) : Node :=
  .element (Bytes.lit "template") [⟨key, []⟩] children line

/-- A main block between two sub-components. -/
def sampleTemplates : List Node :=
  [templateNamed (Bytes.lit "li") [] 1, templateNamed (Bytes.lit "UP") [.text (Bytes.lit "x") 2] 2,
    templateNamed (Bytes.lit "tr") [] 3]

set_option maxRecDepth 100000 in
theorem classify_keeps_iff_sample : ∃ blocks,
    classify sampleTemplates (Bytes.lit "Up") (Bytes.lit "div") = .ok blocks ∧
    (∀ n ∈ sampleTemplates, ∀ key ∈ blockKey? n,
      Text.equalFold key (Bytes.lit "Up") → HasPlainCase key) ∧
    (sampleTemplates.map (blockOf (Bytes.lit "div"))).Perm (blocks.main :: blocks.subs) ∧
    sampleTemplates.length = 1 + blocks.subs.length := by
  have hplain : ∀ n ∈ sampleTemplates, ∀ key ∈ blockKey? n,
      Text.equalFold key (Bytes.lit "Up") → HasPlainCase key := by
    unfold HasPlainCase
    decide +kernel
  have hsorted : classify sampleTemplates (Bytes.lit "Up") (Bytes.lit "div") =
      .ok ⟨⟨Bytes.lit "Up", .element (Bytes.lit "div") [] [.text (Bytes.lit "x") 2] 2, 2⟩,
        [⟨Bytes.lit "Li", .element (Bytes.lit "div") [] [] 1, 1⟩,
          ⟨Bytes.lit "Tr", .element (Bytes.lit "div") [] [] 3, 3⟩]⟩ := by cbv
  obtain ⟨_, _, hkept, hlength, hone⟩ := classify_keeps_iff hsorted
  exact ⟨_, hsorted, hplain, hkept.mpr (hone hplain), hlength.mpr (hone hplain)⟩

/-- Two blocks whose keys differ in lower case and fold to one name: the long s folds to s. -/
def rivalTemplates : List Node :=
  [templateNamed (Bytes.lit "as") [.text (Bytes.lit "one") 1] 1,
    templateNamed (Bytes.lit "aſ") [.text (Bytes.lit "two") 2] 2]

set_option maxRecDepth 100000 in
/-- The second block takes the place of the first, which is in neither part. -/
theorem classify_drops_rival :
    classify rivalTemplates (Bytes.lit "As") (Bytes.lit "div") =
      .ok ⟨blockOf (Bytes.lit "div") (templateNamed (Bytes.lit "aſ") [.text (Bytes.lit "two") 2] 2),
        []⟩ ∧
    rivalTemplates.length = 2 ∧
    ¬(rivalTemplates.map (blockOf (Bytes.lit "div"))).Perm
      [blockOf (Bytes.lit "div")
        (templateNamed (Bytes.lit "aſ") [.text (Bytes.lit "two") 2] 2)] := by
  refine ⟨by cbv, rfl, ?_⟩
  intro hkept
  cases hkept.length_eq

end ComponentCompiler.Template
