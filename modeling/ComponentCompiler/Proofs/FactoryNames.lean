import ComponentCompiler.Proofs.AsciiCase
import ComponentCompiler.Proofs.BlockOrder
import ComponentCompiler.Proofs.Contributions
import Mathlib

/-!
# The names of factories

The code of a component binds one factory for each sub-component and calls only factories that it
binds. The name of a factory is the capitalised name of its block as it was given, and nothing
checks that this is an identifier. So the names are legal exactly if those of the blocks are, and a
block such as `my-item` gives code that is no script.
-/

namespace ComponentCompiler.Render.Expr

/-! ## Names that an expression calls -/

mutual

/-- The names of the factories that an expression calls, in the order of the calls. -/
def factories : Expr → List Bytes
  | call _ _ children => factoriesAll children
  | factory name _ => [name]
  | block _ items _ => factoriesAll items
  | hole | raw _ | literal _ => []

def factoriesAll : List Expr → List Bytes
  | [] => []
  | e :: es => factories e ++ factoriesAll es

end

end ComponentCompiler.Render.Expr

namespace ComponentCompiler.Template

open Markup (Node)
open Render (Expr)

variable {registry : Registry} {block : Bytes}

def Piece.factories : Piece → List Bytes
  | .item e => e.factories
  | .head _ | .tail _ => []

theorem factories_ofCode {make : Bytes → Piece} (hmake : ∀ code, (make code).factories = [])
    (code : Bytes) :
    (Piece.ofCode make code).flatMap Piece.factories = [] := by
  unfold Piece.ofCode
  split <;> simp [hmake]

mutual

theorem factories_eq : ∀ e : Expr, e.factories = (pieces e).flatMap Piece.factories
  | .block head items tail => by
      rw [Expr.factories, factoriesAll_eq items, pieces, List.flatMap_append, List.flatMap_append,
        factories_ofCode fun _ => rfl, factories_ofCode fun _ => rfl, List.nil_append,
        List.append_nil]
  | .hole => rfl
  | .call .. => by simp [pieces, Piece.factories]
  | .factory .. => rfl
  | .raw .. => rfl
  | .literal .. => rfl

theorem factoriesAll_eq : ∀ es : List Expr,
    Expr.factoriesAll es = (piecesAll es).flatMap Piece.factories
  | [] => rfl
  | e :: es => by
      rw [Expr.factoriesAll, factories_eq e, factoriesAll_eq es, piecesAll, List.flatMap_append]

end

mutual

/-- An element calls only factories that its registry knows. -/
theorem Faithful.exists_lookup : ∀ {n : Node} {e : Expr}, Faithful registry block n e →
    ∀ x ∈ e.factories, ∃ tag, registry.lookup? tag = some x
  | _, _, .call h, x, hx => by
      rw [Expr.factories, factoriesAll_eq] at hx
      exact h.exists_lookup x hx

theorem Contributes.exists_lookup : ∀ {k : Nat} {ns : List Node} {ps : List Piece},
    Contributes registry block k ns ps →
      ∀ x ∈ ps.flatMap Piece.factories, ∃ tag, registry.lookup? tag = some x
  | _, _, _, .nil, x, hx => by cases hx
  | _, _, _, .reference hkey h, x, hx => by
      rcases List.mem_append.mp hx with hx | hx
      · exact ⟨_, List.mem_singleton.mp hx ▸ hkey⟩
      · exact h.exists_lookup x hx
  | _, _, _, .element _ _ hfaithful h, x, hx => by
      rcases List.mem_append.mp hx with hx | hx
      · exact hfaithful.exists_lookup x hx
      · exact h.exists_lookup x hx
  | _, _, _, .blank _ h, x, hx => h.exists_lookup x hx
  | _, _, _, .expression _ h, x, hx => by
      rw [List.flatMap_append, factories_ofCode fun _ => rfl] at hx
      exact h.exists_lookup x hx
  | _, _, _, .opening _ _ h, x, hx => by
      rw [List.flatMap_append, factories_ofCode fun _ => rfl] at hx
      exact h.exists_lookup x hx
  | _, _, _, .closing _ _ h, x, hx => by
      rw [List.flatMap_append, factories_ofCode fun _ => rfl] at hx
      exact h.exists_lookup x hx
  | _, _, _, .plain _ _ _ h, x, hx => h.exists_lookup x hx

end

theorem exists_lookup_of_compileElement {n : Node} {e : Expr}
    (h : (compileElement registry block n).result = .ok e) :
    ∀ x ∈ e.factories, ∃ tag, registry.lookup? tag = some x := by
  cases n with
  | text data line =>
      obtain rfl := Except.ok.inj h
      simp [Expr.factories, Expr.factoriesAll]
  | element tag attrs children line => exact (faithful_of_compileElement rfl h).exists_lookup

end ComponentCompiler.Template

namespace ComponentCompiler.Component

open Markup (Node Document)
open Render (Expr)
open Script (isIdentifier)
open Template
open Text (IsAscii)

variable {doc : Document} {name : Bytes} {options : Options}

/-! ## The names in a component -/

/-- The expressions of a component: the main one, and those that are bound to the keys of
sub-components. -/
structure Parts where
  main : Expr
  bound : List (Bytes × Expr)

namespace Parts

def keys (p : Parts) : List Bytes := p.bound.map Prod.fst

/-- The names of the factories that the expressions call. -/
def called (p : Parts) : List Bytes := p.main.factories ++ p.bound.flatMap fun x => x.2.factories

/-- The entries that bind the expressions to their keys. -/
def entries (p : Parts) : List Template.Entry := p.bound.map fun x => ⟨x.1, x.2.print 1⟩

def registry (p : Parts) : Registry := ({} : Registry).setAll p.entries

/-- Every factory that is bound or called has a legal name. -/
def IsLegal (p : Parts) : Prop := ∀ x ∈ p.keys ++ p.called, isIdentifier x

/-- The expressions are those that the blocks are compiled to. -/
structure OfBlocks (blocks : Blocks) (p : Parts) : Prop where
  main : (compileElement (subRegistry blocks) blocks.main.key blocks.main.node).result = .ok p.main
  bound : List.Forall₂ (fun b (x : Bytes × Expr) =>
      x.1 = b.key ∧ (compileElement (subRegistry blocks) b.key b.node).result = .ok x.2)
    blocks.subs p.bound

end Parts

/-- The code of a block is its expression. -/
theorem exists_expr_of_compileBlock {registry : Registry} {b : Block} {x : Bytes × List Bytes}
    (h : (compileBlock registry b).result = .ok x) :
    ∃ e, (compileElement registry b.key b.node).result = .ok e ∧ x.1 = e.print 1 := by
  have hcode := compileBlock_eq_ok_iff.mp ⟨x.2, h⟩
  rw [Template.compile, Outcome.bind_eq_ok] at hcode
  obtain ⟨e, he, hprint⟩ := hcode
  exact ⟨e, he, (Except.ok.inj hprint).symm⟩

theorem exists_bound_of_compileBlocks {registry : Registry} {bs : List Block}
    {xs : List (Bytes × List Bytes)} (h : (compileBlocks registry bs).result = .ok xs) :
    ∃ bound : List (Bytes × Expr), List.Forall₂ (fun b (x : Bytes × Expr) =>
        x.1 = b.key ∧ (compileElement registry b.key b.node).result = .ok x.2) bs bound ∧
      compiledEntries bs xs = bound.map fun x => ⟨x.1, x.2.print 1⟩ := by
  rw [compileBlocks_eq_ok_iff] at h
  induction h with
  | nil => exact ⟨[], .nil, rfl⟩
  | @cons b x bs xs hx _ ih =>
      obtain ⟨bound, hbound, hentries⟩ := ih
      obtain ⟨e, he, hprint⟩ := exists_expr_of_compileBlock hx
      refine ⟨(b.key, e) :: bound, .cons ⟨rfl, he⟩ hbound, ?_⟩
      rw [List.map_cons, ← hentries, ← hprint]
      rfl

/-- The names of the blocks that do not match the component's name, as they are given. -/
def subNames (name : Bytes) (doc : Document) : List Bytes :=
  (subTemplates name doc).filterMap fun n => n.attrs.head?.map (·.key)

theorem subKeys_eq_map (hkeys : KeysDiffer doc.templates) (name : Bytes) :
    subKeys name doc = (subNames name doc).map Text.capitalize := by
  have hnamed : ∀ n ∈ subTemplates name doc, (blockKey? n).isSome := fun n hn =>
    hkeys.named n (List.mem_of_mem_filter hn)
  rw [subKeys, subNames, List.map_filterMap]
  refine List.filterMap_congr fun n hn => ?_
  have hsome := hnamed n hn
  unfold blockKey? at hsome ⊢
  cases hattrs : n.attrs with
  | nil => rfl
  | cons a attrs =>
      rw [hattrs] at hsome
      by_cases ha : a.key = []
      · simp [ha] at hsome
      · simp [ha]

theorem factories_subset_subKeys (hkeys : KeysDiffer doc.templates) {block : Bytes} {n : Node}
    {e : Expr} (h : (compileElement (Registry.ofKeys (subKeys name doc)) block n).result = .ok e) :
    e.factories ⊆ subKeys name doc := by
  intro x hx
  obtain ⟨tag, htag⟩ := exists_lookup_of_compileElement h x hx
  have hdistinct : DistinctKeys (Registry.ofKeys (subKeys name doc)).entries := by
    rw [entries_ofKeys hkeys]
    exact distinctKeys_of_map_key hkeys name (map_key_mk _ _)
  rw [(Registry.Indexed.ofKeys _).1.lookup?_eq_some_iff hdistinct, entries_ofKeys hkeys] at htag
  simpa using htag.1

namespace Parts.OfBlocks

variable {p : Parts} {blocks : Blocks} (hp : p.OfBlocks blocks)

include hp

theorem keys_eq : p.keys = blocks.subs.map (·.key) := by
  have hbound := hp.bound
  rw [keys]
  generalize p.bound = bound at hbound ⊢
  generalize blocks.subs = bs at hbound ⊢
  induction hbound with
  | nil => rfl
  | cons hx _ ih => rw [List.map_cons, List.map_cons, ih, hx.1]

variable (hblocks : classify doc.templates name options.withDefaults.container = .ok blocks)

include hblocks

theorem keys_eq_subKeys : p.keys = subKeys name doc := by
  obtain ⟨hkeys, -, hbs⟩ := classify_eq_ok_iff.mp hblocks
  rw [hp.keys_eq, hbs]
  exact map_key_blockOf hkeys name options.withDefaults.container

/-- Nothing but the bound expressions is called. -/
theorem called_subset : p.called ⊆ p.keys := by
  obtain ⟨hkeys, -, -⟩ := classify_eq_ok_iff.mp hblocks
  obtain ⟨hmain, hbound⟩ := hp
  rw [keys_eq_subKeys ⟨hmain, hbound⟩ hblocks]
  rw [subRegistry_eq hblocks] at hmain hbound
  have hall : ∀ x ∈ p.bound, x.2.factories ⊆ subKeys name doc := by
    generalize p.bound = bound at hbound ⊢
    generalize blocks.subs = bs at hbound
    induction hbound with
    | nil => simp
    | cons hx _ ih => exact List.forall_mem_cons.mpr ⟨factories_subset_subKeys hkeys hx.2, ih⟩
  refine List.append_subset.mpr ⟨factories_subset_subKeys hkeys hmain, fun key hkey => ?_⟩
  obtain ⟨x, hx, hkey⟩ := List.mem_flatMap.mp hkey
  exact hall x hx hkey

theorem entries_registry : p.registry.entries = p.entries := by
  obtain ⟨hkeys, -, -⟩ := classify_eq_ok_iff.mp hblocks
  have hmap : p.entries.map (·.key) = p.keys := by
    rw [entries, keys, List.map_map]
    rfl
  rw [registry, (Registry.Indexed.empty.setAll p.entries).2, setEntries_of_distinct,
    List.nil_append]
  exact distinctKeys_of_map_key hkeys name (hmap.trans (hp.keys_eq_subKeys hblocks))

end Parts.OfBlocks

theorem weave_congr {registry registry' : Registry} (h : registry.entries = registry'.entries)
    (code main : Bytes) (hooks : List Bytes) :
    weave code main registry hooks = weave code main registry' hooks := by
  simp only [weave, wrapperSplices, renderEnding, h]

/-- The code of a document is its script, woven with the expressions of its blocks. -/
theorem exists_parts {code : Bytes} (h : (compileDocument doc name options).result = .ok code) :
    ∃ blocks p, classify doc.templates name options.withDefaults.container = .ok blocks ∧
      checkedBlocks blocks options.withDefaults.sanitize = .ok () ∧ Parts.OfBlocks blocks p ∧
      ∃ woven, weave (behavior doc name).text (p.main.print 1) p.registry
          options.withDefaults.activeHooks = .ok woven ∧
        code = importLine options.withDefaults.runtime ++ woven := by
  obtain ⟨blocks, hblocks, hchecked, main, hmain, subs, hsubs, woven, hwoven, hcode⟩ :=
    compileDocument_stages.mp h
  obtain ⟨e, he, hprint⟩ := exists_expr_of_compileBlock hmain
  obtain ⟨bound, hbound, hentries⟩ := exists_bound_of_compileBlocks hsubs
  have hparts : Parts.OfBlocks blocks ⟨e, bound⟩ := ⟨he, hbound⟩
  refine ⟨blocks, ⟨e, bound⟩, hblocks, hchecked, hparts, woven, ?_, hcode⟩
  have hkeys : (compiledEntries blocks.subs subs).map (·.key) = subKeys name doc := by
    rw [hentries, ← hparts.keys_eq_subKeys hblocks, List.map_map]
    rfl
  rw [← hwoven, hprint]
  apply weave_congr
  rw [hparts.entries_registry hblocks, subRegistry_eq hblocks,
    entries_setAll_ofKeys (classify_eq_ok_iff.mp hblocks).1 name hkeys, hentries]
  rfl

/-- The names of factories are those of the blocks. The code of a component binds, with a factory
line each, the capitalised names of the blocks that do not match its own name, and its expressions
call nothing else. So all names are legal exactly if the capitalised names of the blocks are, and
for plain names exactly if the names are. -/
theorem factories_legal_iff {code : Bytes}
    (h : (compileDocument doc name options).result = .ok code) :
    ∃ blocks p, classify doc.templates name options.withDefaults.container = .ok blocks ∧
      Parts.OfBlocks blocks p ∧
      (∃ woven, weave (behavior doc name).text (p.main.print 1) p.registry
            options.withDefaults.activeHooks = .ok woven ∧
          code = importLine options.withDefaults.runtime ++ woven) ∧
      p.keys = (subNames name doc).map Text.capitalize ∧ p.called ⊆ p.keys ∧
      (p.IsLegal ↔ ∀ x ∈ subNames name doc, isIdentifier (Text.capitalize x)) ∧
      ((∀ x ∈ subNames name doc, IsAscii x) →
        (p.IsLegal ↔ ∀ x ∈ subNames name doc, isIdentifier x)) := by
  obtain ⟨blocks, p, hblocks, -, hp, hwoven⟩ := exists_parts h
  obtain ⟨hkeys, -, -⟩ := classify_eq_ok_iff.mp hblocks
  have hnames : p.keys = (subNames name doc).map Text.capitalize := by
    rw [hp.keys_eq_subKeys hblocks, subKeys_eq_map hkeys]
  have hcalled := hp.called_subset hblocks
  have hlegal : p.IsLegal ↔ ∀ x ∈ subNames name doc, isIdentifier (Text.capitalize x) := by
    -- calling a factory takes its name from a binding, so the bindings decide
    rw [Parts.IsLegal, List.forall_mem_append,
      and_iff_left_of_imp fun hbound x hx => hbound x (hcalled hx), hnames, List.forall_mem_map]
  refine ⟨blocks, p, hblocks, hp, hwoven, hnames, hcalled, hlegal, fun hascii => ?_⟩
  rw [hlegal]
  exact forall₂_congr fun x hx => by rw [Text.isIdentifier_capitalize (hascii x hx)]

set_option maxRecDepth 100000 in
theorem factories_legal_list :
    ∃ blocks p, classify listDocument.templates (Bytes.lit "Up") (Bytes.lit "div") = .ok blocks ∧
      Parts.OfBlocks blocks p ∧ p.keys = [Bytes.lit "Li", Bytes.lit "Tr"] ∧ p.IsLegal := by
  have hsome : (compileDocument listDocument (Bytes.lit "Up") {}).result.toOption.isSome := by
    decide +kernel
  have hnames : subNames (Bytes.lit "Up") listDocument = [Bytes.lit "li", Bytes.lit "tr"] := by cbv
  obtain ⟨code, h⟩ := exists_eq_ok hsome
  obtain ⟨blocks, p, hblocks, hp, _, hkeys, _, _, hlegal⟩ := factories_legal_iff h
  rw [hnames] at hkeys hlegal
  exact ⟨blocks, p, hblocks, hp, hkeys.trans (by decide +kernel),
    (hlegal (by decide +kernel)).mpr (by decide +kernel)⟩

/-- A main block that refers to another one. -/
def dashedMain : Node :=
  templateNamed (Bytes.lit "counter") [.element (Bytes.lit "my-item") [] [] 1] 1

/-- A block whose name has a dash. -/
def dashedItem : Node := templateNamed (Bytes.lit "my-item") [.text (Bytes.lit "x") 1] 1

def dashedDocument : Document := { templates := [dashedMain, dashedItem] }

set_option maxRecDepth 100000 in
/-- Compiling succeeds, and the code binds and calls a factory whose name is no identifier. -/
theorem compileDocument_binds_dashed :
    isIdentifier (Bytes.lit "My-item") = false ∧
    ∃ code c, (compileDocument dashedDocument (Bytes.lit "Counter") {}).result = .ok code ∧
      Assembled dashedDocument (Bytes.lit "Counter") {}
        (Bytes.lit "h(\"div\", {}, [\n        My-item({})\n    ])")
        [⟨Bytes.lit "My-item", Bytes.lit "h(\"div\", {}, [\n        \"x\"\n    ])"⟩] c code := by
  have hmain : matchesName (Bytes.lit "Counter") dashedMain = true := by decide +kernel
  have hitem : matchesName (Bytes.lit "Counter") dashedItem = false := by decide +kernel
  have hcount : dashedDocument.templates.countP (matchesName (Bytes.lit "Counter")) = 1 := by
    simp [dashedDocument, hmain, hitem]
  have hsubs : subTemplates (Bytes.lit "Counter") dashedDocument = [dashedItem] := by
    simp [subTemplates, dashedDocument, hmain, hitem]
  have hlocated :
      (Script.locate (behavior dashedDocument (Bytes.lit "Counter")).text).toOption.isSome := by
    decide +kernel
  obtain ⟨c, hc⟩ := exists_eq_ok hlocated
  obtain ⟨code, hassembled⟩ : ∃ code, Assembled dashedDocument (Bytes.lit "Counter") {}
      (Bytes.lit "h(\"div\", {}, [\n        My-item({})\n    ])")
      [⟨Bytes.lit "My-item", Bytes.lit "h(\"div\", {}, [\n        \"x\"\n    ])"⟩] c code := by
    refine ⟨_, ⟨dashedMain, List.mem_cons_self, hmain, by decide +kernel⟩, ?_, hc, rfl⟩
    rw [hsubs]
    exact .cons ⟨by decide +kernel, by decide +kernel⟩ .nil
  have hkeys : KeysDiffer dashedDocument.templates := ⟨by decide +kernel, by decide +kernel⟩
  have hsanitary : IsSanitary dashedDocument {} := fun hsanitize => absurd hsanitize (by decide)
  refine ⟨by decide +kernel, code, c, ?_, hassembled⟩
  exact (compileDocument_eq_ok_iff hcount).mpr ⟨hkeys, hsanitary, _, _, c, hassembled⟩

end ComponentCompiler.Component
