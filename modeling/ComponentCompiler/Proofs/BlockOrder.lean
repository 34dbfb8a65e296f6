import ComponentCompiler.Component.Compile
import ComponentCompiler.Proofs.Classification
import ComponentCompiler.Proofs.SubComponents
import ComponentCompiler.Proofs.Weave
import Mathlib

/-!
# The order of template blocks

A block is compiled against the keys of all sub-components and never against their expressions, so
what it becomes does not depend on where it stands. Putting the blocks of a document in another
order therefore reorders the factory bindings and changes nothing else, as long as one block matches
the component's name.
-/

namespace ComponentCompiler.Component

open Markup (Node Document)
open Script (Constructor locate Traced)
open Template

variable {doc doc' : Document} {name : Bytes} {options : Options}

/-- The template elements that do not match the component's name. -/
def subTemplates (name : Bytes) (doc : Document) : List Node :=
  doc.templates.filter fun n => !matchesName name n

def subKeys (name : Bytes) (doc : Document) : List Bytes :=
  (subTemplates name doc).filterMap blockKey?

/-- The code of a template element, compiled with sub-components of the given keys at hand. -/
def templateCode (keys : List Bytes) (container : Bytes) (n : Node) : Except Diagnostic Bytes :=
  (Template.compile (Registry.ofKeys keys) (blockOf container n).key
    (blockOf container n).node 1).result

/-! ## The stages of a compilation -/

theorem checkedBlocks_eq_ok_iff {blocks : Blocks} {sanitize : Bool} :
    checkedBlocks blocks sanitize = .ok () ↔
      (sanitize → ∀ b ∈ blocks.main :: blocks.subs, Template.validate b.node b.key = none) := by
  unfold checkedBlocks
  cases sanitize with
  | false => simp
  | true =>
      rw [if_pos rfl, ← List.findSome?_eq_none_iff]
      cases (blocks.main :: blocks.subs).findSome? fun b => Template.validate b.node b.key <;> simp

theorem weave_eq_ok_iff {code main woven : Bytes} {registry : Registry} {hooks : List Bytes} :
    weave code main registry hooks = .ok woven ↔
      ∃ c, locate code = .ok c ∧ woven =
        Traced.text (layout code main registry.entries hooks c) := by
  constructor
  · intro h
    cases hlocate : locate code with
    | error fault =>
        rw [weave, hlocate] at h
        cases h
    | ok c =>
        obtain ⟨cut⟩ := Script.locate_cut hlocate
        rw [weave_of_cut hlocate cut] at h
        exact ⟨c, rfl, (Except.ok.inj h).symm⟩
  · rintro ⟨c, hlocate, rfl⟩
    obtain ⟨cut⟩ := Script.locate_cut hlocate
    exact weave_of_cut hlocate cut main registry hooks

/-- An entry that binds the code of a block, compiled with a registry, to its key. -/
def BindsBlock (registry : Registry) (b : Block) (e : Template.Entry) : Prop :=
  e.key = b.key ∧ (Template.compile registry b.key b.node 1).result = .ok e.expr

theorem bindsBlock_compiledEntries {registry : Registry} {bs : List Block}
    {xs : List (Bytes × List Bytes)} (h : (compileBlocks registry bs).result = .ok xs) :
    List.Forall₂ (BindsBlock registry) bs (compiledEntries bs xs) := by
  rw [compileBlocks_eq_ok_iff] at h
  induction h with
  | nil => exact .nil
  | cons hx _ ih => exact .cons ⟨rfl, compileBlock_eq_ok_iff.mp ⟨_, hx⟩⟩ ih

theorem exists_compileBlocks {registry : Registry} {bs : List Block} {es : List Template.Entry}
    (h : List.Forall₂ (BindsBlock registry) bs es) :
    ∃ xs, (compileBlocks registry bs).result = .ok xs ∧ compiledEntries bs xs = es := by
  simp only [compileBlocks_eq_ok_iff]
  induction h with
  | nil => exact ⟨[], .nil, rfl⟩
  | @cons b e bs es hb _ ih =>
      obtain ⟨xs, hxs, rfl⟩ := ih
      obtain ⟨hkey, hcode⟩ := hb
      obtain ⟨keys, hkeys⟩ := compileBlock_eq_ok_iff.mpr hcode
      refine ⟨(e.expr, keys) :: xs, .cons hkeys hxs, ?_⟩
      rw [compiledEntries, List.zip_cons_cons, List.map_cons, ← hkey]
      rfl

/-! ## How a document is put together -/

/-- The code of a document is the script, woven with the code `main` of the block that matches
the name and with the bindings `entries`, one for each other block in document order, behind
the import line. -/
structure Assembled (doc : Document) (name : Bytes) (options : Options) (main : Bytes)
    (entries : List Template.Entry) (c : Constructor) (code : Bytes) : Prop where
  compiled : ∃ n ∈ doc.templates, matchesName name n ∧
    templateCode (subKeys name doc) options.withDefaults.container n = .ok main
  bindings : List.Forall₂ (fun n (e : Template.Entry) =>
      e.key = (blockOf options.withDefaults.container n).key ∧
        templateCode (subKeys name doc) options.withDefaults.container n = .ok e.expr)
    (subTemplates name doc) entries
  located : locate (behavior doc name).text = .ok c
  code_eq : code = importLine options.withDefaults.runtime ++
    Traced.text (layout (behavior doc name).text main entries options.withDefaults.activeHooks c)

/-- No block holds unsafe markup, if the options ask for this. -/
def IsSanitary (doc : Document) (options : Options) : Prop :=
  options.withDefaults.sanitize → ∀ n ∈ doc.templates,
    Template.validate (blockOf options.withDefaults.container n).node
      (blockOf options.withDefaults.container n).key = none

section

variable (hkeys : KeysDiffer doc.templates) (name : Bytes)

include hkeys

theorem map_some_subKeys : (subKeys name doc).map some = (subTemplates name doc).map blockKey? := by
  have hnamed : ∀ n ∈ subTemplates name doc, (blockKey? n).isSome := fun n hn =>
    hkeys.named n (List.mem_of_mem_filter hn)
  unfold subKeys
  generalize subTemplates name doc = ns at hnamed
  induction ns with
  | nil => rfl
  | cons n ns ih =>
      obtain ⟨hn, hns⟩ := List.forall_mem_cons.mp hnamed
      obtain ⟨key, hkey⟩ := Option.isSome_iff_exists.mp hn
      rw [List.filterMap_cons, List.map_cons, hkey, List.map_cons, ih hns]

theorem map_key_blockOf (container : Bytes) :
    ((subTemplates name doc).map (blockOf container)).map (·.key) = subKeys name doc := by
  have hblocks := congrArg (List.map fun key => key.getD []) (map_some_subKeys hkeys name)
  simpa [Function.comp_def, blockOf, Block.ofNode] using hblocks.symm

theorem nodup_subKeys : ((subKeys name doc).map Text.toLower).Nodup := by
  have hnodup : ((subTemplates name doc).map foldedKey?).Nodup :=
    hkeys.nodup.sublist (List.filter_sublist.map _)
  have hfolded :
      ((subKeys name doc).map Text.toLower).map some = (subTemplates name doc).map foldedKey? := by
    have hmap := congrArg (List.map (Option.map Text.toLower)) (map_some_subKeys hkeys name)
    simp only [List.map_map] at hmap ⊢
    exact hmap
  rw [← hfolded] at hnodup
  exact hnodup.of_map

theorem distinctKeys_of_map_key {es : List Template.Entry} (h : es.map (·.key) = subKeys name doc) :
    DistinctKeys es := by
  have hnodup := nodup_subKeys hkeys name
  rwa [← h, List.map_map] at hnodup

theorem entries_ofKeys :
    (Registry.ofKeys (subKeys name doc)).entries = (subKeys name doc).map (⟨·, []⟩) := by
  have hdistinct : DistinctKeys ((subKeys name doc).map (⟨·, []⟩)) :=
    distinctKeys_of_map_key hkeys name (map_key_mk _ _)
  rw [(Registry.Indexed.ofKeys _).2, setEntries_of_distinct hdistinct, List.nil_append]

/-- No key is set twice, so the registry holds the bindings in document order. -/
theorem entries_setAll_ofKeys {es : List Template.Entry} (h : es.map (·.key) = subKeys name doc) :
    ((Registry.ofKeys (subKeys name doc)).setAll es).entries = es := by
  have hold := map_key_mk (subKeys name doc) []
  have hdistinct := distinctKeys_of_map_key hkeys name hold
  rw [((Registry.Indexed.ofKeys _).1.setAll es).2, entries_ofKeys hkeys]
  change setEntries ([] ++ _) es = [] ++ es
  exact setEntries_replaces hdistinct (h.trans hold.symm)

end

theorem subRegistry_eq {container : Bytes} {blocks : Blocks}
    (hblocks : classify doc.templates name container = .ok blocks) :
    subRegistry blocks = Registry.ofKeys (subKeys name doc) := by
  obtain ⟨hkeys, -, hbs⟩ := classify_eq_ok_iff.mp hblocks
  rw [subRegistry, hbs]
  exact congrArg Registry.ofKeys (map_key_blockOf hkeys name container)

theorem map_key_of_bindsBlock {registry : Registry} {bs : List Block} {es : List Template.Entry}
    (h : List.Forall₂ (BindsBlock registry) bs es) : es.map (·.key) = bs.map (·.key) := by
  induction h with
  | nil => rfl
  | cons hb _ ih => rw [List.map_cons, List.map_cons, ih, hb.1]

/-- The code of a document comes from its main block and its other blocks, however many
match the name. -/
theorem exists_assembled {code : Bytes} (h : (compileDocument doc name options).result = .ok code) :
    KeysDiffer doc.templates ∧ ∃ main entries c,
      Assembled doc name options main entries c code := by
  obtain ⟨⟨b, bs⟩, hblocks, _, ⟨main, used⟩, hcompiled, subs, hsubs, woven, hwoven, rfl⟩ :=
    compileDocument_stages.mp h
  rw [subRegistry_eq hblocks] at hcompiled hsubs hwoven
  obtain ⟨hkeys, hlast, hbs⟩ := classify_eq_ok_iff.mp hblocks
  obtain rfl : bs = (subTemplates name doc).map (blockOf options.withDefaults.container) := hbs
  obtain ⟨n, hn, rfl⟩ := List.mem_map.mp (List.mem_of_getLast? hlast)
  obtain ⟨hmem, hmatches⟩ := List.mem_filter.mp hn
  obtain ⟨c, hc, rfl⟩ := weave_eq_ok_iff.mp hwoven
  have hbinds := bindsBlock_compiledEntries hsubs
  have hentries := map_key_of_bindsBlock hbinds
  rw [map_key_blockOf hkeys] at hentries
  have hcode := compileBlock_eq_ok_iff.mp ⟨used, hcompiled⟩
  refine ⟨hkeys, main, _, c, ⟨n, hmem, hmatches, hcode⟩,
    List.forall₂_map_left_iff.mp hbinds, hc, ?_⟩
  rw [entries_setAll_ofKeys hkeys name hentries]

/-! ## One main block -/

section

variable {n : Node} (hn : doc.templates.filter (matchesName name) = [n])

include hn

/-- The template elements are the one that matches and the others. -/
theorem perm_subTemplates : doc.templates.Perm (n :: subTemplates name doc) := by
  have hparts := (List.filter_append_perm (matchesName name) doc.templates).symm
  rwa [hn] at hparts

theorem eq_of_matchesName {m : Node} (hm : m ∈ doc.templates) (hmatches : matchesName name m) :
    m = n := by
  have hmem : m ∈ doc.templates.filter (matchesName name) := List.mem_filter.mpr ⟨hm, hmatches⟩
  rwa [hn, List.mem_singleton] at hmem

theorem classify_single_iff {container : Bytes} {blocks : Blocks} :
    classify doc.templates name container = .ok blocks ↔
      KeysDiffer doc.templates ∧
        blocks = ⟨blockOf container n, (subTemplates name doc).map (blockOf container)⟩ := by
  obtain ⟨main, subs⟩ := blocks
  rw [classify_eq_ok_iff, hn, List.map_singleton, List.getLast?_singleton, Option.some.injEq,
    Blocks.mk.injEq, subTemplates, eq_comm (a := main)]

theorem isSanitary_iff :
    IsSanitary doc options ↔ checkedBlocks ⟨blockOf options.withDefaults.container n,
      (subTemplates name doc).map (blockOf options.withDefaults.container)⟩
        options.withDefaults.sanitize =
        .ok () := by
  rw [checkedBlocks_eq_ok_iff]
  dsimp only
  rw [← List.map_cons, List.forall_mem_map, IsSanitary]
  simp only [(perm_subTemplates hn).mem_iff]

end

/-- Compiling succeeds exactly if the keys differ, the blocks pass the check of their markup, and
the parts can be put together. -/
theorem compileDocument_eq_ok_iff (hmain : doc.templates.countP (matchesName name) = 1)
    {code : Bytes} :
    (compileDocument doc name options).result = .ok code ↔
      KeysDiffer doc.templates ∧ IsSanitary doc options ∧
        ∃ main entries c, Assembled doc name options main entries c code := by
  rw [List.countP_eq_length_filter] at hmain
  obtain ⟨n, hn⟩ := List.length_eq_one_iff.mp hmain
  constructor
  · intro h
    obtain ⟨blocks, hblocks, hchecked, _⟩ := compileDocument_stages.mp h
    obtain ⟨hkeys, rfl⟩ := (classify_single_iff hn).mp hblocks
    exact ⟨hkeys, (isSanitary_iff hn).mpr hchecked, (exists_assembled h).2⟩
  · rintro ⟨hkeys, hsanitary, main, entries, c, ⟨m, hm, hmatches, hcompiled⟩, hbindings, hc, rfl⟩
    obtain rfl := eq_of_matchesName hn hm hmatches
    have hbinds : List.Forall₂ (BindsBlock (Registry.ofKeys (subKeys name doc)))
        ((subTemplates name doc).map (blockOf options.withDefaults.container)) entries :=
      List.forall₂_map_left_iff.mpr hbindings
    have hentries := map_key_of_bindsBlock hbinds
    obtain ⟨subs, hsubs, hcompiledEntries⟩ := exists_compileBlocks hbinds
    obtain ⟨used, hused⟩ := compileBlock_eq_ok_iff.mpr hcompiled
    rw [map_key_blockOf hkeys] at hentries
    have hblocks : classify doc.templates name options.withDefaults.container = .ok _ :=
      (classify_single_iff hn).mpr ⟨hkeys, rfl⟩
    refine compileDocument_stages.mpr ⟨_, hblocks, (isSanitary_iff hn).mp hsanitary,
      (main, used), ?_,
      subs, ?_, _, weave_eq_ok_iff.mpr ⟨c, hc, rfl⟩, ?_⟩
    · rwa [subRegistry_eq hblocks]
    · rwa [subRegistry_eq hblocks]
    · rw [subRegistry_eq hblocks, hcompiledEntries, entries_setAll_ofKeys hkeys name hentries]

/-! ## Another order -/

theorem behavior_eq (hscripts : doc.scripts = doc'.scripts) :
    behavior doc name = behavior doc' name := by
  rw [behavior, behavior, hscripts]

section

variable (hscripts : doc.scripts = doc'.scripts) (htemplates : doc.templates.Perm doc'.templates)

include htemplates

theorem IsSanitary.perm (h : IsSanitary doc options) : IsSanitary doc' options :=
  fun hsanitize n hn => h hsanitize n (htemplates.mem_iff.mpr hn)

theorem subTemplates_perm : (subTemplates name doc).Perm (subTemplates name doc') :=
  htemplates.filter _

/-- The code of a template element depends on the keys of the sub-components and not
on their order. -/
theorem templateCode_eq (hkeys : KeysDiffer doc.templates) (container : Bytes) (n : Node) :
    templateCode (subKeys name doc) container n = templateCode (subKeys name doc') container n := by
  have hkeys' := hkeys.perm htemplates
  -- compiling asks the registry only which tags it knows
  have hlookup : ∀ tag, (Registry.ofKeys (subKeys name doc)).lookup? tag =
      (Registry.ofKeys (subKeys name doc')).lookup? tag := by
    have hperm : (subKeys name doc).Perm (subKeys name doc') :=
      (subTemplates_perm htemplates).filterMap _
    apply (Registry.Indexed.ofKeys _).1.lookup?_eq_of_perm (Registry.Indexed.ofKeys _).1
    · rw [entries_ofKeys hkeys]
      exact distinctKeys_of_map_key hkeys name (map_key_mk _ _)
    · rw [entries_ofKeys hkeys, entries_ofKeys hkeys']
      exact (hperm.map _).map _
  rw [templateCode, templateCode, Template.compile, Template.compile, compileElement_congr hlookup]

include hscripts

/-- The same parts with the bindings in the order of the other document. -/
theorem Assembled.perm {main code : Bytes} {entries : List Template.Entry} {c : Constructor}
    (hkeys : KeysDiffer doc.templates) (h : Assembled doc name options main entries c code) :
    ∃ entries' code', entries.Perm entries' ∧
      Assembled doc' name options main entries' c code' := by
  obtain ⟨n, hn, hmatches, hcompiled⟩ := h.compiled
  obtain ⟨entries', hbindings, hperm⟩ :=
    List.perm_comp_forall₂ (subTemplates_perm htemplates).symm h.bindings
  refine ⟨entries', _, hperm.symm, ⟨n, htemplates.mem_iff.mp hn, hmatches, ?_⟩, ?_, ?_, rfl⟩
  · rwa [← templateCode_eq htemplates hkeys]
  · simpa only [← templateCode_eq htemplates hkeys] using hbindings
  · rw [← behavior_eq hscripts, h.located]

/-- Where the other blocks keep their order, nothing changes. -/
theorem Assembled.of_subTemplates_eq {main code : Bytes} {entries : List Template.Entry}
    {c : Constructor} (hsubs : subTemplates name doc = subTemplates name doc')
    (h : Assembled doc name options main entries c code) :
    Assembled doc' name options main entries c code := by
  obtain ⟨⟨n, hn, hmatches, hcompiled⟩, hbindings, hlocated, hcode⟩ := h
  have hkeys : subKeys name doc = subKeys name doc' := congrArg (List.filterMap blockKey?) hsubs
  rw [hkeys] at hcompiled hbindings
  rw [hsubs] at hbindings
  rw [behavior_eq hscripts] at hlocated hcode
  exact ⟨⟨n, htemplates.mem_iff.mp hn, hmatches, hcompiled⟩, hbindings, hlocated, hcode⟩

theorem exists_compileDocument_perm (hmain : doc.templates.countP (matchesName name) = 1)
    {code : Bytes} (h : (compileDocument doc name options).result = .ok code) :
    ∃ main entries entries' c code', entries.Perm entries' ∧
      Assembled doc name options main entries c code ∧
        Assembled doc' name options main entries' c code' ∧
      (compileDocument doc' name options).result = .ok code' := by
  have hmain' : doc'.templates.countP (matchesName name) = 1 := by rwa [← htemplates.countP_eq]
  obtain ⟨hkeys, hsanitary, main, entries, c, hassembled⟩ := (compileDocument_eq_ok_iff hmain).mp h
  obtain ⟨entries', code', hperm, hassembled'⟩ := hassembled.perm hscripts htemplates hkeys
  refine ⟨main, entries, entries', c, code', hperm, hassembled, hassembled', ?_⟩
  exact (compileDocument_eq_ok_iff hmain').mpr
    ⟨hkeys.perm htemplates, hsanitary.perm htemplates, main, entries', c, hassembled'⟩

theorem compileDocument_of_subTemplates_eq (hmain : doc.templates.countP (matchesName name) = 1)
    (hsubs : subTemplates name doc = subTemplates name doc') {code : Bytes}
    (h : (compileDocument doc name options).result = .ok code) :
    (compileDocument doc' name options).result = .ok code := by
  have hmain' : doc'.templates.countP (matchesName name) = 1 := by rwa [← htemplates.countP_eq]
  obtain ⟨hkeys, hsanitary, main, entries, c, hassembled⟩ := (compileDocument_eq_ok_iff hmain).mp h
  exact (compileDocument_eq_ok_iff hmain').mpr
    ⟨hkeys.perm htemplates, hsanitary.perm htemplates, main,
    entries, c, hassembled.of_subTemplates_eq hscripts htemplates hsubs⟩

end

/-- Documents with the same scripts and the same template blocks in some order, one of which matches
the name, compile or fail together. Their code has the same import line, the same script and the
same main expression woven into it at the same place, and the same bindings, each document's in its
own order. If the blocks that do not match stand in one order in both, the code is the same. -/
theorem compileDocument_perm (hscripts : doc.scripts = doc'.scripts)
    (htemplates : doc.templates.Perm doc'.templates)
    (hmain : doc.templates.countP (matchesName name) = 1) :
    ((∃ code, (compileDocument doc name options).result = .ok code) ↔
      ∃ code, (compileDocument doc' name options).result = .ok code) ∧
    (∀ code code', (compileDocument doc name options).result = .ok code →
      (compileDocument doc' name options).result = .ok code' →
      behavior doc name = behavior doc' name ∧
      ∃ main entries entries' c, entries.Perm entries' ∧
        Assembled doc name options main entries c code ∧
          Assembled doc' name options main entries' c code') ∧
    (subTemplates name doc = subTemplates name doc' → ∀ code,
      (compileDocument doc name options).result = .ok code ↔
        (compileDocument doc' name options).result = .ok code) := by
  have hmain' : doc'.templates.countP (matchesName name) = 1 := by rwa [← htemplates.countP_eq]
  refine ⟨⟨?_, ?_⟩, ?_, ?_⟩
  · rintro ⟨code, h⟩
    obtain ⟨_, _, _, _, code', _, _, _, h'⟩ :=
      exists_compileDocument_perm hscripts htemplates hmain h
    exact ⟨code', h'⟩
  · rintro ⟨code, h⟩
    obtain ⟨_, _, _, _, code', _, _, _, h'⟩ :=
      exists_compileDocument_perm hscripts.symm htemplates.symm hmain' h
    exact ⟨code', h'⟩
  · intro code code' h h'
    obtain ⟨main, entries, entries', c, other, hperm, hassembled, hassembled', hother⟩ :=
      exists_compileDocument_perm hscripts htemplates hmain h
    obtain rfl : other = code' := Except.ok.inj (hother.symm.trans h')
    exact ⟨behavior_eq hscripts, main, entries, entries', c, hperm, hassembled, hassembled'⟩
  · intro hsubs code
    exact ⟨compileDocument_of_subTemplates_eq hscripts htemplates hmain hsubs,
      compileDocument_of_subTemplates_eq hscripts.symm htemplates.symm hmain' hsubs.symm⟩

/-- The blocks of a list, in which the main block refers to an item and the item to its content. -/
def listBlocks : List Node :=
  [templateNamed (Bytes.lit "UP") [.element (Bytes.lit "li") [] [] 1] 1,
    templateNamed (Bytes.lit "li") [.element (Bytes.lit "tr") [] [] 2] 2,
    templateNamed (Bytes.lit "tr") [.text (Bytes.lit "x") 3] 3]

def listDocument : Document := { templates := listBlocks }

def reversedDocument : Document := { templates := listBlocks.reverse }

set_option maxRecDepth 100000 in
theorem compileDocument_perm_reversed :
    listDocument.templates.countP (matchesName (Bytes.lit "Up")) = 1 ∧
    ∃ main entries entries' c code code',
      (compileDocument listDocument (Bytes.lit "Up") {}).result = .ok code ∧
      (compileDocument reversedDocument (Bytes.lit "Up") {}).result = .ok code' ∧
      entries.Perm entries' ∧
      Assembled listDocument (Bytes.lit "Up") {} main entries c code ∧
      Assembled reversedDocument (Bytes.lit "Up") {} main entries' c code' := by
  have hmain : listDocument.templates.countP (matchesName (Bytes.lit "Up")) = 1 := by cbv
  have hperm : listDocument.templates.Perm reversedDocument.templates :=
    (List.reverse_perm listBlocks).symm
  have hscripts : listDocument.scripts = reversedDocument.scripts := rfl
  obtain ⟨hboth, hparts, _⟩ :=
    @compileDocument_perm listDocument reversedDocument (Bytes.lit "Up") {}
    hscripts hperm hmain
  have hsome : (compileDocument listDocument (Bytes.lit "Up") {}).result.toOption.isSome := by
    decide +kernel
  obtain ⟨code, h⟩ := exists_eq_ok hsome
  obtain ⟨code', h'⟩ := hboth.mp ⟨code, h⟩
  obtain ⟨_, main, entries, entries', c, hentries, hassembled, hassembled'⟩ :=
    hparts code code' h h'
  exact ⟨hmain, main, entries, entries', c, code, code', h, h', hentries, hassembled, hassembled'⟩

end ComponentCompiler.Component
