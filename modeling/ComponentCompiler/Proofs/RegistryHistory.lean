import ComponentCompiler.Proofs.AsciiCase
import ComponentCompiler.Proofs.Registry
import Mathlib

/-!
# What a registry keeps of its history

A registry is determined by the registrations that filled it. It has one entry for each key, case
aside, in the order in which the keys came up; the entry is spelled as the key was first and holds
the expression that was given last. A tag is looked up by another fold than the one under which keys
are stored: it is capitalised by the full case mappings before it is lowered. On plain names both
folds agree.
-/

namespace ComponentCompiler.Template

open Text (IsAscii)

/-! ## The keys of a history -/

/-- `keys` are the keys that the registrations `calls` bring up: no two of them are one key, case
aside, they stand in the order of their first registrations, and each is spelled as it was then. -/
structure FirstSpellings (calls : List Entry) (keys : List Bytes) : Prop where
  distinct : (keys.map Text.toLower).Nodup
  registered : ∀ c ∈ calls, ∃ key ∈ keys, Text.toLower key = Text.toLower c.key
  ordered : (keys.map fun key => calls.findIdx (·.hasKey (Text.toLower key))).Pairwise (· < ·)
  spelling : ∀ key ∈ keys, (calls.find? (·.hasKey (Text.toLower key))).map (·.key) = some key

namespace FirstSpellings

variable {calls : List Entry} {keys : List Bytes} {key : Bytes} {c : Entry}

theorem exists_first (h : FirstSpellings calls keys) (hkey : key ∈ keys) :
    ∃ first, calls.find? (·.hasKey (Text.toLower key)) = some first :=
  (Option.map_eq_some_iff.mp (h.spelling key hkey)).imp fun _ hfirst => hfirst.1

theorem findIdx_lt (h : FirstSpellings calls keys) (hkey : key ∈ keys) :
    calls.findIdx (·.hasKey (Text.toLower key)) < calls.length := by
  obtain ⟨first, hfirst⟩ := h.exists_first hkey
  rw [List.findIdx_lt_length]
  exact ⟨first, List.mem_of_find?_eq_some hfirst, List.find?_some (p := (Entry.hasKey · _)) hfirst⟩

/-! What is registered first stays first, whatever comes behind it. -/

theorem find?_concat (h : FirstSpellings calls keys) (hkey : key ∈ keys) (c : Entry) :
    (calls ++ [c]).find? (·.hasKey (Text.toLower key)) =
      calls.find? (·.hasKey (Text.toLower key)) := by
  obtain ⟨first, hfirst⟩ := h.exists_first hkey
  rw [List.find?_append, hfirst, Option.some_or]

theorem findIdx_concat (h : FirstSpellings calls keys) (hkey : key ∈ keys) (c : Entry) :
    (calls ++ [c]).findIdx (·.hasKey (Text.toLower key)) =
      calls.findIdx (·.hasKey (Text.toLower key)) := by
  rw [List.findIdx_append, if_pos (h.findIdx_lt hkey)]

theorem map_findIdx_concat (h : FirstSpellings calls keys) (c : Entry) :
    (keys.map fun key => (calls ++ [c]).findIdx (·.hasKey (Text.toLower key))) =
      keys.map fun key => calls.findIdx (·.hasKey (Text.toLower key)) :=
  List.map_congr_left fun _ hkey => h.findIdx_concat hkey c

theorem concat_of_mem (h : FirstSpellings calls keys) (hkey : key ∈ keys)
    (hc : Text.toLower key = Text.toLower c.key) : FirstSpellings (calls ++ [c]) keys where
  distinct := h.distinct
  registered := by
    intro x hx
    rcases List.mem_append.mp hx with hx | hx
    · exact h.registered x hx
    · rw [List.mem_singleton.mp hx]
      exact ⟨key, hkey, hc⟩
  ordered := by
    rw [h.map_findIdx_concat]
    exact h.ordered
  spelling := by
    intro x hx
    rw [h.find?_concat hx]
    exact h.spelling x hx

theorem concat_of_new (h : FirstSpellings calls keys)
    (hc : ∀ key ∈ keys, Text.toLower key ≠ Text.toLower c.key) :
    FirstSpellings (calls ++ [c]) (keys ++ [c.key]) := by
  have hnone : ∀ x ∈ calls, ¬x.hasKey (Text.toLower c.key) := by
    intro x hx hkey
    obtain ⟨key, hmem, hsame⟩ := h.registered x hx
    exact hc key hmem (hsame.trans (Entry.hasKey_iff.mp hkey))
  have hself : c.hasKey (Text.toLower c.key) := Entry.hasKey_iff.mpr rfl
  have hfirst : (calls ++ [c]).find? (·.hasKey (Text.toLower c.key)) = some c := by
    rw [List.find?_append, List.find?_eq_none.mpr hnone, Option.none_or,
      List.find?_cons_of_pos (by exact hself)]
  have hidx : calls.length ≤ (calls ++ [c]).findIdx (·.hasKey (Text.toLower c.key)) := by
    rw [List.findIdx_append, List.findIdx_eq_length.mpr (by simpa using hnone)]
    simp
  refine ⟨?_, ?_, ?_, ?_⟩
  · rw [List.map_append, List.map_singleton, ← List.concat_eq_append, List.nodup_concat]
    refine ⟨?_, h.distinct⟩
    intro hmem
    obtain ⟨key, hkey, hsame⟩ := List.mem_map.mp hmem
    exact hc key hkey hsame
  · intro x hx
    rcases List.mem_append.mp hx with hx | hx
    · obtain ⟨key, hmem, hsame⟩ := h.registered x hx
      exact ⟨key, List.mem_append_left _ hmem, hsame⟩
    · rw [List.mem_singleton.mp hx]
      exact ⟨c.key, by simp, rfl⟩
  · rw [List.map_append, h.map_findIdx_concat, List.map_singleton, List.pairwise_append]
    refine ⟨h.ordered, List.pairwise_singleton _ _, ?_⟩
    -- the keys there were have their first registrations among the earlier calls
    intro i hi j hj
    obtain ⟨key, hkey, rfl⟩ := List.mem_map.mp hi
    rw [List.mem_singleton.mp hj]
    exact Nat.lt_of_lt_of_le (h.findIdx_lt hkey) hidx
  · rw [List.forall_mem_append]
    refine ⟨?_, ?_⟩
    · intro x hx
      rw [h.find?_concat hx]
      exact h.spelling x hx
    · intro x hx
      rw [List.mem_singleton.mp hx, hfirst]
      rfl

end FirstSpellings

/-! ## The entries of a history -/

/-- The entries `es` are what the registrations `calls` leave: an entry for each key that came up,
with the expression that this key was given last. -/
structure Reflects (calls es : List Entry) : Prop where
  keys : FirstSpellings calls (es.map (·.key))
  expression : ∀ e ∈ es,
    (calls.reverse.find? (·.hasKey (Text.toLower e.key))).map (·.expr) = some e.expr

theorem setEntry_cases (key expr : Bytes) (es : List Entry) :
    (∃ front e back, es = front ++ e :: back ∧ Text.toLower e.key = Text.toLower key ∧
        setEntry key expr es = front ++ ⟨e.key, expr⟩ :: back) ∨
      ((∀ e ∈ es, Text.toLower e.key ≠ Text.toLower key) ∧
        setEntry key expr es = es ++ [⟨key, expr⟩]) := by
  induction es with
  | nil => exact .inr ⟨by simp, rfl⟩
  | cons e es ih =>
      rw [setEntry]
      by_cases he : Text.toLower e.key = Text.toLower key
      · rw [if_pos (Entry.hasKey_iff.mpr he)]
        exact .inl ⟨[], e, es, rfl, he, rfl⟩
      · rw [if_neg (mt Entry.hasKey_iff.mp he)]
        rcases ih with ⟨front, x, back, rfl, hx, hset⟩ | ⟨hnew, hset⟩
        · exact .inl ⟨e :: front, x, back, rfl, hx, by rw [hset]; rfl⟩
        · exact .inr ⟨List.forall_mem_cons.mpr ⟨he, hnew⟩, by rw [hset]; rfl⟩

namespace Reflects

variable {calls es : List Entry} {e c : Entry}

theorem distinctKeys (h : Reflects calls es) : DistinctKeys es := by
  have hdistinct := h.keys.distinct
  rwa [List.map_map] at hdistinct

theorem findLast_concat (hc : Text.toLower c.key ≠ Text.toLower e.key) :
    (calls ++ [c]).reverse.find? (·.hasKey (Text.toLower e.key)) =
      calls.reverse.find? (·.hasKey (Text.toLower e.key)) := by
  rw [List.reverse_append, List.reverse_singleton, List.singleton_append,
    List.find?_cons_of_neg (by rwa [Entry.hasKey_iff])]

theorem findLast_concat_self (hc : Text.toLower c.key = Text.toLower e.key) :
    (calls ++ [c]).reverse.find? (·.hasKey (Text.toLower e.key)) = some c := by
  rw [List.reverse_append, List.reverse_singleton, List.singleton_append,
    List.find?_cons_of_pos (by rwa [Entry.hasKey_iff])]

/-- One more registration. -/
theorem set (h : Reflects calls es) (c : Entry) :
    Reflects (calls ++ [c]) (setEntry c.key c.expr es) := by
  rcases setEntry_cases c.key c.expr es with ⟨front, e, back, rfl, he, hset⟩ | ⟨hnew, hset⟩
  · have hothers : ∀ x ∈ front ++ back, Text.toLower e.key ≠ Text.toLower x.key := by
      have hdistinct := h.distinctKeys
      rw [DistinctKeys, List.map_append, List.map_cons, List.nodup_middle, List.nodup_cons,
        ← List.map_append] at hdistinct
      intro x hx hsame
      exact hdistinct.1 (hsame ▸ List.mem_map_of_mem hx)
    rw [hset]
    refine ⟨?_, ?_⟩
    · have hmem : e.key ∈ (front ++ e :: back).map (·.key) := by simp
      have hkeys := h.keys.concat_of_mem hmem he
      simpa using hkeys
    · intro x hx
      rcases List.mem_cons.mp (List.perm_middle.mem_iff.mp hx) with rfl | hx
      · rw [findLast_concat_self he.symm]
        rfl
      · rw [findLast_concat (he ▸ hothers x hx)]
        exact h.expression x (List.perm_middle.mem_iff.mpr (List.mem_cons_of_mem e hx))
  · rw [hset]
    refine ⟨?_, ?_⟩
    · rw [List.map_append]
      exact h.keys.concat_of_new (List.forall_mem_map.mpr hnew)
    · rw [List.forall_mem_append]
      refine ⟨?_, ?_⟩
      · intro x hx
        rw [findLast_concat (hnew x hx).symm]
        exact h.expression x hx
      · intro x hx
        rw [List.mem_singleton.mp hx, findLast_concat_self rfl]
        rfl

/-- Any number of further registrations. -/
theorem setEntries (h : Reflects calls es) (more : List Entry) :
    Reflects (calls ++ more) (setEntries es more) := by
  induction more generalizing calls es with
  | nil =>
      rw [List.append_nil]
      exact h
  | cons c more ih =>
      have hrest := ih (h.set c)
      rwa [List.append_assoc] at hrest

theorem empty : Reflects [] [] := ⟨⟨List.nodup_nil, by simp, List.Pairwise.nil, by simp⟩, by simp⟩

end Reflects

/-! ## Looking spellings up -/

/-- Two spellings of a name that differ in the case of plain letters only. -/
def Recased (s t : Bytes) : Prop := Bytes.lowerAscii s = Bytes.lowerAscii t

theorem Recased.isAscii {s t : Bytes} (h : Recased s t) (hs : IsAscii s) : IsAscii t := by
  have hlower : ∀ b, Ascii.toLower b < 0x80 ↔ b < 0x80 := by decide +kernel
  intro b hb
  have hmem : Ascii.toLower b ∈ Bytes.lowerAscii s := h ▸ List.mem_map_of_mem hb
  obtain ⟨a, ha, hab⟩ := List.mem_map.mp hmem
  rw [← hlower, ← hab, hlower]
  exact hs a ha

theorem Recased.toLower_capitalize {key tag : Bytes} (h : Recased key tag) (hkey : IsAscii key) :
    Text.toLower (Text.capitalize tag) = Text.toLower key := by
  rw [Text.toLower_capitalize_of_isAscii (h.isAscii hkey), Text.toLower_of_isAscii hkey]
  exact h.symm

/-- A registry and its history. It starts with some keys, or with none, and is then given
expressions for keys one after another. What it holds is what these registrations leave, and its
index finds each entry. A tag is found exactly if some entry has its key, and it is found under the
spelling of that entry; so a plain key that was registered is found by all its spellings, under the
one that came first. -/
theorem registry_reflects_history (keys : List Bytes) (calls : List Entry) :
    let r := (Registry.ofKeys keys).setAll calls
    let history : List Entry := keys.map (⟨·, []⟩) ++ calls
    Reflects history r.entries ∧ r.Indexed ∧
      (∀ tag, (r.lookup? tag).isSome ↔
        ∃ e ∈ r.entries, Text.toLower e.key = Text.toLower (Text.capitalize tag)) ∧
      (∀ tag, ∀ e ∈ r.entries, Text.toLower e.key = Text.toLower (Text.capitalize tag) →
        r.lookup? tag = some e.key) ∧
      ∀ c ∈ history, IsAscii c.key → ∀ tag, Recased c.key tag →
        ∃ first, history.find? (·.hasKey (Text.toLower c.key)) = some first ∧
          r.lookup? tag = some first.key := by
  intro r history
  obtain ⟨hkeys, hentries⟩ := Registry.Indexed.ofKeys keys
  obtain ⟨hindexed, hcalls⟩ := hkeys.setAll calls
  have hreflects : Reflects history r.entries := by
    rw [hcalls, hentries]
    exact (Reflects.empty.setEntries _).setEntries calls
  have hlookup : ∀ tag, ∀ e ∈ r.entries, Text.toLower e.key = Text.toLower (Text.capitalize tag) →
      r.lookup? tag = some e.key := by
    intro tag e he hsame
    exact (hindexed.lookup?_eq_some_iff hreflects.distinctKeys).mpr ⟨List.mem_map_of_mem he, hsame⟩
  refine ⟨hreflects, hindexed, fun tag => hindexed.lookup?_isSome_iff, hlookup, ?_⟩
  intro c hc hascii tag htag
  obtain ⟨key, hkey, hsame⟩ := hreflects.keys.registered c hc
  obtain ⟨e, he, rfl⟩ := List.mem_map.mp hkey
  obtain ⟨first, hfirst, hspelling⟩ :=
    Option.map_eq_some_iff.mp (hreflects.keys.spelling e.key hkey)
  refine ⟨first, hsame ▸ hfirst, ?_⟩
  rw [hspelling]
  exact hlookup tag e he (hsame.trans (htag.toLower_capitalize hascii).symm)

/-- Registrations of two keys in several spellings. -/
def sampleCalls : List Entry :=
  [⟨Bytes.lit "Row", Bytes.lit "a"⟩, ⟨Bytes.lit "ITEM", Bytes.lit "b"⟩,
    ⟨Bytes.lit "row", Bytes.lit "c"⟩]

theorem registry_reflects_history_recased :
    ⟨Bytes.lit "ITEM", Bytes.lit "b"⟩ ∈ sampleCalls ∧ IsAscii (Bytes.lit "ITEM") ∧
      Recased (Bytes.lit "ITEM") (Bytes.lit "iTeM") ∧
      ((Registry.ofKeys [Bytes.lit "Item"]).setAll sampleCalls).lookup? (Bytes.lit "iTeM") =
        some (Bytes.lit "Item") := by
  have hmem : ⟨Bytes.lit "ITEM", Bytes.lit "b"⟩ ∈ sampleCalls := by simp [sampleCalls]
  have hascii : IsAscii (Bytes.lit "ITEM") := by decide +kernel
  have htag : Recased (Bytes.lit "ITEM") (Bytes.lit "iTeM") := by
    unfold Recased
    decide
  obtain ⟨_, _, _, _, hplain⟩ := registry_reflects_history [Bytes.lit "Item"] sampleCalls
  obtain ⟨first, hfirst, hlookup⟩ := hplain _ (List.mem_append_right _ hmem) hascii _ htag
  have hitem : (Entry.mk (Bytes.lit "Item") []).hasKey (Text.toLower (Bytes.lit "ITEM")) := by
    decide +kernel
  rw [List.map_singleton, List.singleton_append, List.find?_cons_of_pos (by exact hitem)] at hfirst
  obtain rfl := Option.some.inj hfirst
  exact ⟨hmem, hascii, htag, hlookup⟩

end ComponentCompiler.Template
