import ComponentCompiler.Template.Compile
import Mathlib

/-!
# Registries and their entries

A registry is read as the list of its entries: its index gives the position of each entry by its
lower-cased key (`Indexed`), and each registration keeps this. As long as keys differ in lower case,
registering them lists them in order, and giving each an expression fills the list in. A tag is then
found whatever the order of the entries is, and a template compiles to the same expression with any
two registries of the same keys.
-/

namespace ComponentCompiler.Template

open Markup (Node)

/-- Whether an entry has the lower-cased key `folded`. -/
def Entry.hasKey (e : Entry) (folded : Bytes) : Bool := Text.toLower e.key == folded

theorem Entry.hasKey_iff {e : Entry} {folded : Bytes} :
    e.hasKey folded ↔ Text.toLower e.key = folded :=
  beq_iff_eq

/-- No two entries have keys with one lower-case form. -/
def DistinctKeys (es : List Entry) : Prop := (es.map fun e => Text.toLower e.key).Nodup

theorem DistinctKeys.ne_of_mem {front back : List Entry} {e : Entry}
    (h : DistinctKeys (front ++ e :: back)) :
    ∀ x ∈ front, Text.toLower x.key ≠ Text.toLower e.key := by
  intro x hx heq
  rw [DistinctKeys, List.map_append, List.nodup_append'] at h
  exact h.2.2 (List.mem_map_of_mem hx) (heq ▸ List.mem_map_of_mem List.mem_cons_self)

/-! ## Lists of entries -/

theorem map_key_mk (keys : List Bytes) (expr : Bytes) :
    (keys.map (Entry.mk · expr)).map (·.key) = keys := by
  rw [List.map_map]
  exact List.map_id _

/-- The entries after giving `key` an expression: replaced where the key stands, else appended. -/
def setEntry (key expr : Bytes) : List Entry → List Entry
  | [] => [⟨key, expr⟩]
  | e :: es =>
    if e.hasKey (Text.toLower key) then { e with expr } :: es
    else e :: setEntry key expr es

/-- The entries after giving each key of `calls` its expression, one after another. -/
def setEntries (es calls : List Entry) : List Entry :=
  calls.foldl (fun es c => setEntry c.key c.expr es) es

theorem setEntry_append {front back : List Entry} {key : Bytes} (expr : Bytes)
    (h : ∀ e ∈ front, Text.toLower e.key ≠ Text.toLower key) :
    setEntry key expr (front ++ back) = front ++ setEntry key expr back := by
  induction front with
  | nil => rfl
  | cons e front ih =>
      obtain ⟨he, hfront⟩ := List.forall_mem_cons.mp h
      rw [List.cons_append, setEntry, if_neg (mt Entry.hasKey_iff.mp he), ih hfront,
        List.cons_append]

/-- A key that is registered gets its expression where it stands. -/
theorem setEntry_of_mem {front back : List Entry} {e : Entry} {key : Bytes} (expr : Bytes)
    (h : ∀ x ∈ front, Text.toLower x.key ≠ Text.toLower key)
    (he : Text.toLower e.key = Text.toLower key) :
    setEntry key expr (front ++ e :: back) = front ++ ⟨e.key, expr⟩ :: back := by
  rw [setEntry_append expr h, setEntry, if_pos (Entry.hasKey_iff.mpr he)]

/-- A new key is appended. -/
theorem setEntry_of_new {es : List Entry} {key : Bytes} (expr : Bytes)
    (h : ∀ e ∈ es, Text.toLower e.key ≠ Text.toLower key) :
    setEntry key expr es = es ++ [⟨key, expr⟩] := by
  rw [← List.append_nil es, setEntry_append expr h, List.append_nil]
  rfl

theorem setEntries_of_distinct {es new : List Entry} (h : DistinctKeys (es ++ new)) :
    setEntries es new = es ++ new := by
  induction new generalizing es with
  | nil => rw [List.append_nil]; rfl
  | cons e new ih =>
      have hset : setEntry e.key e.expr es = es ++ [e] := setEntry_of_new e.expr h.ne_of_mem
      have hnext : DistinctKeys (es ++ [e] ++ new) := by simpa using h
      rw [setEntries, List.foldl_cons, hset]
      exact (ih hnext).trans (by simp)

theorem setEntries_replaces {done old es : List Entry} (h : DistinctKeys (done ++ old))
    (hkeys : es.map (·.key) = old.map (·.key)) : setEntries (done ++ old) es = done ++ es := by
  induction es generalizing done old with
  | nil =>
      obtain rfl := List.map_eq_nil_iff.mp hkeys.symm
      rfl
  | cons e es ih =>
      obtain ⟨x, old, rfl, hx, hold⟩ := List.map_eq_cons_iff.mp hkeys.symm
      have hset : setEntry e.key e.expr (done ++ x :: old) = done ++ [e] ++ old := by
        rw [setEntry_of_mem e.expr (hx ▸ h.ne_of_mem) (congrArg Text.toLower hx), hx]
        simp
      have hnext : DistinctKeys (done ++ [e] ++ old) := by
        rw [DistinctKeys] at h ⊢
        simpa [hx] using h
      rw [setEntries, List.foldl_cons, hset]
      exact (ih hnext hold.symm).trans (by simp)

/-! ## The index -/

namespace Registry

/-- The index gives the position of the entry with each lower-cased key. -/
def Indexed (r : Registry) : Prop :=
  ∀ folded, r.index.lookup folded = r.entries.findIdx? (·.hasKey folded)

/-- Registers entries one after another. -/
def setAll (r : Registry) (es : List Entry) : Registry := es.foldl (fun r e => r.set e.key e.expr) r

/-- Some entry has the key, case aside. -/
def Registered (r : Registry) (key : Bytes) : Prop :=
  ∃ e ∈ r.entries, Text.toLower e.key = Text.toLower key

namespace Indexed

variable {r r' : Registry}

theorem empty : Indexed {} := fun _ => rfl

/-- What a registration does: it replaces the expression of the entry with its key, or it appends an
entry and notes its position. -/
theorem set_cases (h : r.Indexed) (key expr : Bytes) :
    (∃ front e back, r.entries = front ++ e :: back ∧
        (∀ x ∈ front, Text.toLower x.key ≠ Text.toLower key) ∧
        Text.toLower e.key = Text.toLower key ∧
        r.set key expr = { r with entries := front ++ ⟨e.key, expr⟩ :: back }) ∨
      ((∀ e ∈ r.entries, Text.toLower e.key ≠ Text.toLower key) ∧
        r.set key expr =
          { entries := r.entries ++ [⟨key, expr⟩]
            index := (Text.toLower key, r.entries.length) :: r.index }) := by
  rw [set]
  cases hfind : r.index.lookup (Text.toLower key) with
  | none =>
      rw [h, List.findIdx?_eq_none_iff] at hfind
      exact .inr ⟨fun e he => beq_eq_false_iff_ne.mp (hfind e he), rfl⟩
  | some i =>
      rw [h, List.findIdx?_eq_some_iff_getElem] at hfind
      obtain ⟨hi, hkey, hfirst⟩ := hfind
      refine .inl ⟨r.entries.take i, r.entries[i], r.entries.drop (i + 1), ?_, ?_,
        Entry.hasKey_iff.mp hkey, ?_⟩
      · rw [List.getElem_cons_drop, List.take_append_drop]
      · intro x hx
        obtain ⟨j, hj, rfl⟩ := List.mem_take_iff_getElem.mp hx
        exact mt Entry.hasKey_iff.mpr (hfirst j (by omega))
      · simp only [List.modify_eq_take_cons_drop hi]

/-- Registering keeps the entries as the list of entries keeps them. -/
theorem entries_set (h : r.Indexed) (key expr : Bytes) :
    (r.set key expr).entries = setEntry key expr r.entries := by
  rcases h.set_cases key expr with ⟨front, e, back, hentries, hfront, he, hset⟩ | ⟨hnew, hset⟩
  · rw [hset, hentries, setEntry_of_mem expr hfront he]
  · rw [hset, setEntry_of_new expr hnew]

/-- The index follows each registration. -/
theorem set (h : r.Indexed) (key expr : Bytes) : (r.set key expr).Indexed := by
  intro folded
  rcases h.set_cases key expr with ⟨front, e, back, hentries, -, -, hset⟩ | ⟨hnew, hset⟩
  · -- the keys are as they were
    rw [hset, h folded, hentries, List.findIdx?_append, List.findIdx?_append]
    rfl
  · rw [hset, List.lookup_cons, h folded, List.findIdx?_append]
    by_cases hfolded : folded = Text.toLower key
    · subst hfolded
      have hnone : r.entries.findIdx? (·.hasKey (Text.toLower key)) = none := by
        rw [List.findIdx?_eq_none_iff]
        exact fun e he => beq_eq_false_iff_ne.mpr (hnew e he)
      rw [hnone]
      simp [Entry.hasKey]
    · have hbeq : (folded == Text.toLower key) = false := beq_eq_false_iff_ne.mpr hfolded
      have hother : (Entry.mk key expr).hasKey folded = false :=
        beq_eq_false_iff_ne.mpr (Ne.symm hfolded)
      simp [hbeq, hother]

theorem registered_set (h : r.Indexed) (key expr : Bytes) : (r.set key expr).Registered key := by
  rcases h.set_cases key expr with ⟨front, e, back, -, -, he, hset⟩ | ⟨-, hset⟩
  · rw [hset]
    exact ⟨⟨e.key, expr⟩, by simp, he⟩
  · rw [hset]
    exact ⟨⟨key, expr⟩, by simp, rfl⟩

/-- Giving a registered key an expression leaves the keys as they are. -/
theorem map_key_set (h : r.Indexed) {key : Bytes} (hkey : r.Registered key) (expr : Bytes) :
    (r.set key expr).entries.map (·.key) = r.entries.map (·.key) := by
  rcases h.set_cases key expr with ⟨front, e, back, hentries, -, -, hset⟩ | ⟨hnew, -⟩
  · rw [hset, hentries]
    simp
  · obtain ⟨e, he, hsame⟩ := hkey
    exact absurd hsame (hnew e he)

theorem registered_set_of_registered (h : r.Indexed) {key : Bytes} (hkey : r.Registered key)
    (other expr : Bytes) : (r.set other expr).Registered key := by
  obtain ⟨e, he, hsame⟩ := hkey
  rcases h.set_cases other expr with ⟨front, x, back, hentries, -, -, hset⟩ | ⟨-, hset⟩
  · rw [hset]
    rw [hentries, List.mem_append, List.mem_cons] at he
    rcases he with he | rfl | he
    · exact ⟨e, by simp [he], hsame⟩
    · exact ⟨⟨e.key, expr⟩, by simp, hsame⟩
    · exact ⟨e, by simp [he], hsame⟩
  · rw [hset]
    exact ⟨e, List.mem_append_left _ he, hsame⟩

theorem setAll (h : r.Indexed) (es : List Entry) :
    (r.setAll es).Indexed ∧ (r.setAll es).entries = setEntries r.entries es := by
  induction es generalizing r with
  | nil => exact ⟨h, rfl⟩
  | cons e es ih =>
      obtain ⟨hindexed, hentries⟩ := ih (h.set e.key e.expr)
      refine ⟨hindexed, hentries.trans ?_⟩
      rw [h.entries_set]
      rfl

theorem ofKeys (keys : List Bytes) :
    (ofKeys keys).Indexed ∧ (ofKeys keys).entries = setEntries [] (keys.map (⟨·, []⟩)) := by
  have hkeys := empty.setAll (keys.map (⟨·, []⟩))
  rwa [Registry.setAll, List.foldl_map] at hkeys

theorem registered_setAll (h : r.Indexed) {key : Bytes} {es : List Entry}
    (hkey : r.Registered key ∨ key ∈ es.map (·.key)) : (r.setAll es).Registered key := by
  induction es generalizing r with
  | nil => exact hkey.resolve_right List.not_mem_nil
  | cons e es ih =>
      refine ih (h.set e.key e.expr) ?_
      rw [List.map_cons, List.mem_cons] at hkey
      rcases hkey with hkey | rfl | hkey
      · exact .inl (h.registered_set_of_registered hkey e.key e.expr)
      · exact .inl (h.registered_set e.key e.expr)
      · exact .inr hkey

theorem registered_ofKeys {keys : List Bytes} {key : Bytes} (hkey : key ∈ keys) :
    (Registry.ofKeys keys).Registered key := by
  have hset : (({} : Registry).setAll (keys.map (⟨·, []⟩))).Registered key :=
    empty.registered_setAll (.inr (by rwa [map_key_mk]))
  rwa [Registry.setAll, List.foldl_map] at hset

/-! ## Looking tags up -/

/-- A tag is looked up among the entries. -/
theorem lookup?_eq (h : r.Indexed) (tag : Bytes) :
    r.lookup? tag =
      (r.entries.find? (·.hasKey (Text.toLower (Text.capitalize tag)))).map (·.key) := by
  rw [lookup?, h, List.find?_eq_bind_findIdx?_getElem?]
  cases hfind : r.entries.findIdx? (·.hasKey (Text.toLower (Text.capitalize tag))) with
  | none => simp
  | some i =>
      have hne : r.entries ≠ [] := by
        rintro hnil
        simp [hnil] at hfind
      simp [hne]

/-- Looking a tag up reads no more of the entries than their keys. -/
theorem lookup?_congr (h : r.Indexed) (h' : r'.Indexed)
    (hkeys : r.entries.map (·.key) = r'.entries.map (·.key)) (tag : Bytes) :
    r.lookup? tag = r'.lookup? tag := by
  have hmap : ∀ es : List Entry,
      (es.find? (·.hasKey (Text.toLower (Text.capitalize tag)))).map (·.key) =
        (es.map (·.key)).find? (Text.toLower · == Text.toLower (Text.capitalize tag)) := by
    intro es
    rw [List.find?_map]
    rfl
  rw [h.lookup?_eq, h'.lookup?_eq, hmap, hmap, hkeys]

theorem lookup?_isSome_iff (h : r.Indexed) {tag : Bytes} :
    (r.lookup? tag).isSome ↔
      ∃ e ∈ r.entries, Text.toLower e.key = Text.toLower (Text.capitalize tag) := by
  rw [h.lookup?_eq, Option.isSome_map, List.find?_isSome]
  simp only [Entry.hasKey_iff]

theorem lookup?_eq_some_iff (h : r.Indexed) (hkeys : DistinctKeys r.entries) {tag key : Bytes} :
    r.lookup? tag = some key ↔
      key ∈ r.entries.map (·.key) ∧ Text.toLower key = Text.toLower (Text.capitalize tag) := by
  have hfound : ∀ {e}, r.entries.find? (·.hasKey (Text.toLower (Text.capitalize tag))) = some e →
      Text.toLower e.key = Text.toLower (Text.capitalize tag) := by
    intro e hfind
    exact Entry.hasKey_iff.mp (List.find?_some (p := (Entry.hasKey · _)) hfind)
  rw [h.lookup?_eq, Option.map_eq_some_iff]
  constructor
  · rintro ⟨e, hfind, rfl⟩
    exact ⟨List.mem_map_of_mem (List.mem_of_find?_eq_some hfind), hfound hfind⟩
  · rintro ⟨hmem, hfolded⟩
    obtain ⟨e, he, rfl⟩ := List.mem_map.mp hmem
    have hsome : (r.entries.find? (·.hasKey (Text.toLower (Text.capitalize tag)))).isSome := by
      rw [List.find?_isSome]
      exact ⟨e, he, Entry.hasKey_iff.mpr hfolded⟩
    -- the entry that is found first is the only one with its key
    obtain ⟨x, hx⟩ := Option.isSome_iff_exists.mp hsome
    obtain rfl := List.inj_on_of_nodup_map hkeys (List.mem_of_find?_eq_some hx) he
      ((hfound hx).trans hfolded.symm)
    exact ⟨x, hx, rfl⟩

/-- The order of the keys does not matter for looking tags up. -/
theorem lookup?_eq_of_perm (h : r.Indexed) (h' : r'.Indexed) (hkeys : DistinctKeys r.entries)
    (hperm : (r.entries.map (·.key)).Perm (r'.entries.map (·.key))) (tag : Bytes) :
    r.lookup? tag = r'.lookup? tag := by
  have hkeys' : DistinctKeys r'.entries := by
    have hfolded := hperm.map Text.toLower
    rw [List.map_map, List.map_map] at hfolded
    exact hfolded.nodup_iff.mp hkeys
  apply Option.ext
  intro key
  rw [h.lookup?_eq_some_iff hkeys, h'.lookup?_eq_some_iff hkeys', hperm.mem_iff]

end Indexed

end Registry

/-! ## Registries with the same keys -/

mutual

theorem compileElement_congr {r r' : Registry} (h : ∀ tag, r.lookup? tag = r'.lookup? tag)
    (block : Bytes) (n : Node) :
    compileElement r block n = compileElement r' block n := by
  cases n with
  | text data line => rfl
  | element tag attrs children line =>
      rw [compileElement, compileElement, compileChildren_congr h block children]

theorem compileChildren_congr {r r' : Registry} (h : ∀ tag, r.lookup? tag = r'.lookup? tag)
    (block : Bytes) (ns : List Node) (frames : Frames) :
    compileChildren r block ns frames = compileChildren r' block ns frames := by
  cases ns with
  | nil => rfl
  | cons n ns =>
      cases n with
      | text data line =>
          rw [compileChildren, compileChildren, compileChildren_congr h block ns]
      | element tag attrs children line =>
          rw [compileChildren, compileChildren, h tag]
          cases r'.lookup? tag with
          | some key =>
              simp only [compileChildren_congr h block ns]
          | none =>
              simp only [compileElement_congr h block (.element tag attrs children line),
                compileChildren_congr h block ns]

end

end ComponentCompiler.Template
