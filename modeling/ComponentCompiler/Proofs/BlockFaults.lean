import ComponentCompiler.Proofs.Classification

/-!
# Faults of template blocks

Sorting template blocks stops at the first block that has no name or repeats the key of an earlier
one, and only when there is none does it matter whether some block is the main one. `AtFault` says
what is wrong with a block behind the blocks in front of it, without the state of the sorting; the
state keeps the lines of the blocks in front, so that a repeated key is reported with the line on
which it came up first.
-/

namespace ComponentCompiler.Template

open Markup (Node)

variable {name container : Bytes} {n m : Node} {before ns : List Node} {s : Sorting}

/-! ## Blocks at fault -/

/-- The element has no attribute, or the name of its first attribute is empty. -/
def Unnamed (n : Node) : Prop := ∀ a ∈ n.attrs.head?, a.key = []

/-- Both elements are named, and their keys are equal in lower case. -/
def SameKey (m n : Node) : Prop :=
  ∃ key key', blockKey? m = some key ∧ blockKey? n = some key' ∧
    Text.toLower key = Text.toLower key'

/-- The element `n` has no name or repeats the key of one of the elements `before`. -/
def AtFault (before : List Node) (n : Node) : Prop := Unnamed n ∨ ∃ m ∈ before, SameKey m n

/-- None of the elements `ns`, which stand behind the elements `before`, is at fault. -/
def Faultless (before ns : List Node) : Prop :=
  ∀ front n back, ns = front ++ n :: back → ¬AtFault (before ++ front) n

/-- The diagnostic `d` is about the element `n` behind the elements `before`. -/
inductive Reports (before : List Node) (n : Node) (d : Diagnostic) : Prop
  | unnamed (hn : Unnamed n) (fault : d.fault = .unnamedTemplate) (line : d.line = n.line)
  | duplicate {m : Node} {key : Bytes} (hm : m ∈ before) (hsame : SameKey m n)
      (fault : d.fault = .duplicateTemplate) (line : d.line = n.line)
        (hkey : blockKey? n = some key)
      (detail : d.detail = Bytes.lit "block " ++ Text.quoted key ++
        Bytes.lit " is already declared on line " ++ Bytes.ofInt m.line)

theorem blockKey?_eq_none_iff : blockKey? n = none ↔ Unnamed n := by
  unfold blockKey? Unnamed
  cases n.attrs with
  | nil => simp
  | cons a attrs => simp

theorem sameKey_iff {key : Bytes} (hkey : blockKey? n = some key) :
    SameKey m n ↔ foldedKey? m = some (Text.toLower key) := by
  rw [foldedKey?, Option.map_eq_some_iff]
  constructor
  · rintro ⟨first, key', hfirst, hkey', hsame⟩
    obtain rfl : key' = key := Option.some.inj (hkey'.symm.trans hkey)
    exact ⟨first, hfirst, hsame⟩
  · rintro ⟨first, hfirst, hsame⟩
    exact ⟨first, key, hfirst, hkey, hsame⟩

theorem Reports.atFault {d : Diagnostic} (h : Reports before n d) : AtFault before n := by
  cases h with
  | unnamed hn => exact .inl hn
  | duplicate hm hsame => exact .inr ⟨_, hm, hsame⟩

theorem faultless_cons :
    Faultless before (n :: ns) ↔ ¬AtFault before n ∧ Faultless (before ++ [n]) ns := by
  constructor
  · intro h
    refine ⟨?_, ?_⟩
    · have hn := h [] n ns rfl
      rwa [List.append_nil] at hn
    · intro front m back hns
      have hm := h (n :: front) m back (by rw [hns, List.cons_append])
      rwa [List.append_cons] at hm
  · rintro ⟨hn, hns⟩ front m back hsplit
    cases front with
    | nil =>
        obtain ⟨rfl, _⟩ := List.cons.inj hsplit
        rwa [List.append_nil]
    | cons x front =>
        obtain ⟨rfl, hrest⟩ := List.cons.inj hsplit
        rw [List.append_cons]
        exact hns front m back hrest

/-! ## The state of the sorting -/

namespace Sorting

/-- The keys that were met are those of the elements `before`, with their lines. -/
structure Tracks (before : List Node) (s : Sorting) : Prop where
  met : ∀ m ∈ before, ∀ folded, foldedKey? m = some folded → folded ∈ s.seenKeys
  line : ∀ folded line, s.seen.lookup folded = some line →
    ∃ m ∈ before, foldedKey? m = some folded ∧ m.line = line

theorem Tracks.not_atFault (hs : s.Tracks before) {key : Bytes} (hkey : blockKey? n = some key)
    (hnew : Text.toLower key ∉ s.seenKeys) : ¬AtFault before n := by
  rintro (hn | ⟨m, hm, hsame⟩)
  · rw [← blockKey?_eq_none_iff, hkey] at hn
    cases hn
  · exact hnew (hs.met m hm _ ((sameKey_iff hkey).mp hsame))

theorem Tracks.meet (hs : s.Tracks before) {key : Bytes} (hkey : blockKey? n = some key) :
    (s.meet name container key n).Tracks (before ++ [n]) where
  met := by
    have hkeys : (s.meet name container key n).seenKeys = Text.toLower key :: s.seenKeys := rfl
    intro m hm folded hfolded
    rw [hkeys]
    rcases List.mem_append.mp hm with hm | hm
    · exact List.mem_cons_of_mem _ (hs.met m hm folded hfolded)
    · rw [List.mem_singleton.mp hm, foldedKey?_eq hkey] at hfolded
      rw [← Option.some.inj hfolded]
      exact List.mem_cons_self
  line := by
    intro folded line hlookup
    rw [Sorting.meet, List.lookup_cons] at hlookup
    by_cases hsame : folded = Text.toLower key
    · subst hsame
      rw [beq_self_eq_true] at hlookup
      exact ⟨n, by simp, foldedKey?_eq hkey, Option.some.inj hlookup⟩
    · rw [beq_false_of_ne hsame] at hlookup
      obtain ⟨m, hm, hrest⟩ := hs.line folded line hlookup
      exact ⟨m, List.mem_append_left _ hm, hrest⟩

/-- What one element does to the sorting. -/
theorem add_cases (name container : Bytes) (hs : s.Tracks before) (n : Node) :
    (∃ d, s.add name container n = .error d ∧ Reports before n d) ∨
      ∃ s', s.add name container n = .ok s' ∧ ¬AtFault before n ∧ s'.Tracks (before ++ [n]) := by
  cases hkey : blockKey? n with
  | none =>
      refine .inl ⟨unnamedBlock name n, by rw [add, hkey], ?_⟩
      exact .unnamed (blockKey?_eq_none_iff.mp hkey) rfl rfl
  | some key =>
      cases hlookup : s.seen.lookup (Text.toLower key) with
      | some line =>
          obtain ⟨m, hm, hfolded, rfl⟩ := hs.line _ line hlookup
          refine .inl ⟨duplicateBlock key m.line n, by rw [add, hkey]; simp only [hlookup], ?_⟩
          exact .duplicate hm ((sameKey_iff hkey).mpr hfolded) rfl rfl hkey rfl
      | none =>
          have hnew := (lookup_eq_none_iff s _).mp hlookup
          exact .inr ⟨_, add_of_not_mem hkey hnew, hs.not_atFault hkey hnew, hs.meet hkey⟩

/-- What a list of elements does to the sorting: it stops at the first one at fault. -/
theorem addAll_cases (name container : Bytes) (hs : s.Tracks before) (ns : List Node) :
    (∃ front n back d, ns = front ++ n :: back ∧ Faultless before front ∧
      Reports (before ++ front) n d ∧
        addAll name container s ns = .error d) ∨
      (Faultless before ns ∧ ∃ s', addAll name container s ns = .ok s') := by
  induction ns generalizing before s with
  | nil =>
      refine .inr ⟨?_, s, rfl⟩
      intro front n back hsplit
      simp at hsplit
  | cons n ns ih =>
      rcases add_cases name container hs n with ⟨d, hadd, hreports⟩ | ⟨s', hadd, hn, hs'⟩
      · refine .inl ⟨[], n, ns, d, rfl, ?_, by rwa [List.append_nil], by rw [addAll, hadd]; rfl⟩
        intro front m back hsplit
        simp at hsplit
      · have hrest : addAll name container s (n :: ns) = addAll name container s' ns := by
          rw [addAll, hadd]
          rfl
        rw [hrest]
        rcases ih hs' with ⟨front, m, back, d, rfl, hfront, hreports, herror⟩ | ⟨hns, hok⟩
        · refine .inl ⟨n :: front, m, back, d, rfl, faultless_cons.mpr ⟨hn, hfront⟩, ?_, herror⟩
          rwa [List.append_cons]
        · exact .inr ⟨faultless_cons.mpr ⟨hn, hns⟩, hok⟩

end Sorting

/-! ## Sorting all blocks -/

theorem matchesName_eq_false_iff :
    matchesName name n = false ↔ ∀ key ∈ blockKey? n, ¬Text.equalFold key name := by
  rw [matchesName]
  cases blockKey? n with
  | none => simp
  | some key => simp

/-- The three ways in which sorting ends. -/
theorem classify_cases (nodes : List Node) (name container : Bytes) :
    (∃ before n after d, nodes = before ++ n :: after ∧ Faultless [] before ∧ Reports before n d ∧
        classify nodes name container = .error d) ∨
      (Faultless [] nodes ∧ (∀ n ∈ nodes, matchesName name n = false) ∧
        ∃ found, classify nodes name container = .error (missingMain name found)) ∨
      (Faultless [] nodes ∧ (∃ n ∈ nodes, matchesName name n) ∧
        ∃ blocks, classify nodes name container = .ok blocks) := by
  have hstart : Sorting.Tracks [] {} := ⟨by simp, by simp⟩
  rcases Sorting.addAll_cases name container hstart nodes with
    ⟨before, n, after, d, hsplit, hbefore, hreports, herror⟩ | ⟨hnodes, ⟨seen, main, subs⟩, hok⟩
  · exact .inl ⟨before, n, after, d, hsplit, hbefore, hreports, by rw [classify, herror]; rfl⟩
  · obtain ⟨_, _, hmain, _⟩ := Sorting.addAll_eq_ok_iff.mp ⟨seen, hok⟩
    rw [Option.or_none] at hmain
    refine .inr ?_
    rw [classify, hok, Except.bind]
    cases main with
    | none =>
        have hnone : nodes.filter (matchesName name) = [] := by simpa using hmain.symm
        refine .inl ⟨hnodes, ?_, subs.map (·.key), rfl⟩
        simpa using hnone
    | some main =>
        have hmem := List.mem_of_getLast? hmain.symm
        obtain ⟨n, hn, _⟩ := List.mem_map.mp hmem
        obtain ⟨hn, hmatches⟩ := List.mem_filter.mp hn
        exact .inr ⟨hnodes, ⟨n, hn, hmatches⟩, _, rfl⟩

theorem not_faultless_iff {nodes : List Node} :
    ¬Faultless [] nodes ↔ (∃ n ∈ nodes, Unnamed n) ∨
      ∃ before n after, nodes = before ++ n :: after ∧ ∃ m ∈ before, SameKey m n := by
  simp only [Faultless, List.nil_append, not_forall, not_not, exists_prop]
  constructor
  · rintro ⟨before, n, after, hsplit, hn | hdup⟩
    · exact .inl ⟨n, by simp [hsplit], hn⟩
    · exact .inr ⟨before, n, after, hsplit, hdup⟩
  · rintro (⟨n, hn, hunnamed⟩ | ⟨before, n, after, hsplit, hdup⟩)
    · obtain ⟨before, after, hsplit⟩ := List.append_of_mem hn
      exact ⟨before, n, after, hsplit, .inl hunnamed⟩
    · exact ⟨before, n, after, hsplit, .inr hdup⟩

theorem KeysDiffer.nodup_toLower {nodes : List Node} (h : KeysDiffer nodes) (container : Bytes) :
    ((nodes.map (blockOf container)).map fun b => Text.toLower b.key).Nodup := by
  refine List.Nodup.of_map some ?_
  have hfolded : ((nodes.map (blockOf container)).map fun b => Text.toLower b.key).map some =
      nodes.map foldedKey? := by
    rw [List.map_map, List.map_map]
    refine List.map_congr_left fun n hn => ?_
    obtain ⟨key, hkey⟩ := Option.isSome_iff_exists.mp (h.named n hn)
    rw [foldedKey?_eq hkey, Function.comp_apply, Function.comp_apply, blockOf_eq hkey]
    rfl
  rw [hfolded]
  exact h.nodup

theorem classify_error_iff (nodes : List Node) (name container : Bytes) :
    (∃ d, classify nodes name container = .error d) ↔
      ¬Faultless [] nodes ∨ ∀ n ∈ nodes, matchesName name n = false := by
  rcases classify_cases nodes name container with
    ⟨before, n, after, d, hsplit, _, hreports, herror⟩ | ⟨_, hnone, found, herror⟩ |
      ⟨hnodes, ⟨n, hn, hmatches⟩, blocks, hok⟩
  · refine iff_of_true ⟨d, herror⟩ (.inl fun hnodes => ?_)
    exact hnodes before n after hsplit hreports.atFault
  · exact iff_of_true ⟨_, herror⟩ (.inr hnone)
  · refine iff_of_false ?_ ?_
    · rintro ⟨d, herror⟩
      rw [hok] at herror
      cases herror
    · rintro (hfault | hnone)
      · exact hfault hnodes
      · rw [hnone n hn] at hmatches
        cases hmatches

theorem report_of_classify_error {nodes : List Node} {d : Diagnostic}
    (h : classify nodes name container = .error d) :
    (∃ before n after, nodes = before ++ n :: after ∧ Faultless [] before ∧ Reports before n d) ∨
      (Faultless [] nodes ∧ d.fault = .missingMainTemplate ∧ d.block = name) := by
  rcases classify_cases nodes name container with
    ⟨before, n, after, d', hsplit, hbefore, hreports, herror⟩ | ⟨hnodes, _, found, herror⟩ |
      ⟨_, _, blocks, hok⟩
  · obtain rfl := Except.error.inj (herror.symm.trans h)
    exact .inl ⟨before, n, after, hsplit, hbefore, hreports⟩
  · obtain rfl := Except.error.inj (herror.symm.trans h)
    exact .inr ⟨hnodes, rfl, rfl⟩
  · rw [hok] at h
    cases h

theorem nodup_keys_of_classify {nodes : List Node} {blocks : Blocks}
    (h : classify nodes name container = .ok blocks) : (blocks.keys.map Text.toLower).Nodup := by
  have hall := (classify_eq_ok_iff.mp h).1.nodup_toLower container
  have hperm := (perm_replacedBlocks h).map fun b => Text.toLower b.key
  have hparts := hperm.nodup_iff.mp hall
  rw [List.map_append] at hparts
  have hkept := hparts.of_append_right
  simpa [Blocks.keys, Function.comp_def] using hkept

theorem exists_node_of_classify {nodes : List Node} {blocks : Blocks} {b : Block}
    (h : classify nodes name container = .ok blocks) (hb : b ∈ blocks.main :: blocks.subs) :
    ∃ n ∈ nodes, blockKey? n = some b.key ∧ b.node = .element container [] n.children n.line ∧
      b.line = n.line := by
  have hmem : b ∈ nodes.map (blockOf container) :=
    (perm_replacedBlocks h).mem_iff.mpr (List.mem_append_right _ hb)
  obtain ⟨n, hn, rfl⟩ := List.mem_map.mp hmem
  obtain ⟨key, hkey⟩ := Option.isSome_iff_exists.mp ((classify_eq_ok_iff.mp h).1.named n hn)
  rw [blockOf_eq hkey]
  exact ⟨n, hn, hkey, rfl, rfl⟩

/-- Sorting reports the first fault. It fails exactly if some block has no name, or two blocks
have one key, case aside, or no key matches the component's name. The error is about the first
block that has no name or repeats the key of an earlier one, whose line it then tells; if there
is none, the main block is missing. A success keeps the blocks that do not match the name in
document order, with distinct keys, and each block with its children and its line under a
container without attributes. -/
theorem classify_reports_first_fault (nodes : List Node) (name container : Bytes) :
    ((∃ d, classify nodes name container = .error d) ↔
      (∃ n ∈ nodes, Unnamed n) ∨
        (∃ before n after, nodes = before ++ n :: after ∧ ∃ m ∈ before, SameKey m n) ∨
        ∀ n ∈ nodes, ∀ key ∈ blockKey? n, ¬Text.equalFold key name) ∧
    (∀ d, classify nodes name container = .error d →
      (∃ before n after, nodes = before ++ n :: after ∧ Faultless [] before ∧ Reports before n d) ∨
        (Faultless [] nodes ∧ d.fault = .missingMainTemplate ∧ d.block = name)) ∧
    ∀ blocks, classify nodes name container = .ok blocks →
      blocks.subs = (nodes.filter fun n => !matchesName name n).map (blockOf container) ∧
        (blocks.keys.map Text.toLower).Nodup ∧
        ∀ b ∈ blocks.main :: blocks.subs, ∃ n ∈ nodes, blockKey? n = some b.key ∧
          b.node = .element container [] n.children n.line ∧ b.line = n.line := by
  refine ⟨?_, fun d hd => report_of_classify_error hd, ?_⟩
  · rw [classify_error_iff, not_faultless_iff, or_assoc]
    simp only [matchesName_eq_false_iff]
  · intro blocks hok
    exact ⟨(classify_eq_ok_iff.mp hok).2.2, nodup_keys_of_classify hok,
      fun b hb => exists_node_of_classify hok hb⟩

/-- Three faults at once: the third block repeats the key of the first, the fourth has no name, and
none is the main block. -/
def faultyTemplates : List Node :=
  [templateNamed (Bytes.lit "li") [] 1, templateNamed (Bytes.lit "tr") [] 2,
    templateNamed (Bytes.lit "LI") [] 4, .element (Bytes.lit "template") [] [] 5]

set_option maxRecDepth 100000 in
theorem classify_reports_first_fault_repeated :
    classify faultyTemplates (Bytes.lit "Up") (Bytes.lit "div") =
        .error (duplicateBlock (Bytes.lit "Li") 1 (templateNamed (Bytes.lit "LI") [] 4)) ∧
      ∃ before n after, faultyTemplates = before ++ n :: after ∧ Faultless [] before ∧
        Reports before n
          (duplicateBlock (Bytes.lit "Li") 1 (templateNamed (Bytes.lit "LI") [] 4)) := by
  have herror : classify faultyTemplates (Bytes.lit "Up") (Bytes.lit "div") =
      .error (duplicateBlock (Bytes.lit "Li") 1 (templateNamed (Bytes.lit "LI") [] 4)) := by cbv
  obtain ⟨_, hreports, _⟩ :=
    classify_reports_first_fault faultyTemplates (Bytes.lit "Up") (Bytes.lit "div")
  rcases hreports _ herror with hfirst | ⟨_, hfault, _⟩
  · exact ⟨herror, hfirst⟩
  · cases hfault

end ComponentCompiler.Template
