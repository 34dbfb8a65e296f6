import ComponentCompiler.Proofs.Enclosure
import ComponentCompiler.Proofs.Weave
import Mathlib

/-!
# The header of the constructor in a woven script

Locating the constructor takes an identifier behind `function` for its name, with or without a star
between them. The search for hooks takes it for a declared name only if the keyword is right in
front of it. So a declared name is rewritten just in case it is a hook behind a star, and the header
of the constructor comes through weaving in one piece unless the constructor is a generator named
like a hook.
-/

namespace ComponentCompiler.Script

/-! ## Declared names -/

/-- The name of a function is rewritten just in case it is a hook and a star is in front of it. -/
theorem mem_hookSplices_declared {code : Bytes} (hooks : List Bytes) {before behind : List Token}
    {keyword t : Token} {star : Option Token}
    (hsig : significant (scan code) = before ++ keyword :: (star.toList ++ t :: behind))
    (hkeyword : keyword.isIdent (Bytes.lit "function")) (hstar : ∀ s ∈ star, s.isPunct Ascii.star)
    (hident : t.kind = .ident) :
    ⟨t.start, memberOf⟩ ∈ hookSplices code hooks ↔ star.isSome ∧ t.text ∈ hooks := by
  by_cases hhook : t.text ∈ hooks
  · cases star with
    | none =>
        have hdeclared : keyword.kind = .ident ∧ keyword.text ∈ declarationKeywords := by
          simp only [Token.isIdent, Bool.and_eq_true, beq_iff_eq] at hkeyword
          exact ⟨hkeyword.1, by rw [hkeyword.2]; decide⟩
        rw [mem_hookSplices_behind hsig hident hhook, isReference_iff]
        simp [hdeclared]
    | some s =>
        have hkind : s.kind = .punct := (Token.isPunct_iff.mp (hstar s rfl)).1
        have hother : ∀ b, Ascii.star ≠ b → ¬s.isPunct b := fun b => Token.not_isPunct (hstar s rfl)
        have hsig' : significant (scan code) = (before ++ [keyword]) ++ s :: t :: behind := by
          simpa using hsig
        rw [mem_hookSplices_behind hsig' hident hhook, isReference_iff]
        simp [hother Ascii.dot (by decide), hother Ascii.openBrace (by decide),
          hother Ascii.comma (by decide), hkind, hhook]
  · have hsig' : significant (scan code) = (before ++ keyword :: star.toList) ++ t :: behind := by
      simpa using hsig
    rw [mem_hookSplices_iff hooks hsig']
    simp [isHookReference, hhook]

/-! ## The header of the constructor -/

/-- The header of a located constructor among the tokens of the script: the keyword, an optional
star, an optional name and the parameters, up to the opening brace of the body. -/
structure LocatedHeader (code : Bytes) (c : Constructor) where
  before : List Token
  keyword : Token
  star : Option Token
  name : Option Token
  params : List Token
  body : List Token
  tokens : significant (scan code) =
    before ++ keyword :: (star.toList ++ (name.toList ++ (params ++ c.openToken :: body)))
  keyword_eq : keyword.isIdent (Bytes.lit "function")
  star_eq : ∀ s ∈ star, s.isPunct Ascii.star
  name_kind : ∀ u ∈ name, u.kind = .ident
  name_eq : c.name = (name.map Token.text).getD []
  params_eq : params.map Token.text = ["(", "props", ",", "el", ")"].map Bytes.lit

theorem locate_header {code : Bytes} {c : Constructor} (h : locate code = .ok c) :
    Nonempty (LocatedHeader code c) := by
  unfold locate at h
  split at h
  · cases h
  · rename_i hd hhead
    simp only at h
    split at h
    · obtain rfl := Except.ok.inj h
      obtain ⟨before, rest, hsig, hat, _⟩ := firstHeader?_eq_some_iff.mp hhead
      obtain ⟨keyword, star, name, lparen, props, comma, el, rparen, tokens, keyword_eq, star_eq,
        name_kind,
        name_eq, lparen_eq, props_eq, comma_eq, el_eq, rparen_eq, brace_eq, _, _⟩ := hat
      have hbrace : hd.brace = ⟨.punct, hd.brace.start, [Ascii.openBrace]⟩ := by
        rw [← (Token.isPunct_iff.mp brace_eq).1, ← (Token.isPunct_iff.mp brace_eq).2]
      exact ⟨{
        before, keyword, star, name
        params := [lparen, props, comma, el, rparen]
        body := hd.body
        tokens := by rw [hsig, tokens, Constructor.openToken, ← hbrace]; rfl
        keyword_eq, star_eq, name_kind, name_eq
        params_eq := by
          simp only [List.map_cons, List.map_nil, props_eq, comma_eq, el_eq,
            (Token.isPunct_iff.mp lparen_eq).2, (Token.isPunct_iff.mp rparen_eq).2]
          decide }⟩
    · cases h

/-- An identifier begins with a byte of identifiers. -/
theorem Scans.isIdentByte_head {ctx : Context} {n : Nat} {x r : Bytes} {ts : List Token} {t : Token}
    (h : Scans ctx n x r ts) (ht : t ∈ ts) (hident : t.kind = .ident) :
    ∃ b tl, t.text = b :: tl ∧ isIdentByte b := by
  obtain ⟨before, behind, rfl⟩ := List.append_of_mem ht
  obtain ⟨_, b, tl, _, htext, _, _, _, hlex, _⟩ := h.split
  rw [hident] at hlex
  exact ⟨b, tl, htext, isIdentByte_of_lexeme hlex⟩

namespace LocatedHeader

variable {code : Bytes} {c : Constructor}

/-- The text of the header, from the keyword to the opening brace. -/
def text (hd : LocatedHeader code c) : Bytes := slice code hd.keyword.start (c.opening + 1)

/-- The constructor is a generator whose name is a hook. -/
def IsHookedGenerator (hd : LocatedHeader code c) (hooks : List Bytes) : Prop :=
  hd.star.isSome ∧ ∃ u ∈ hd.name, u.text ∈ hooks

/-- The tokens of the header between the keyword and the brace. -/
def inner (hd : LocatedHeader code c) : List Token :=
  hd.star.toList ++ (hd.name.toList ++ hd.params)

theorem tokens_inner (hd : LocatedHeader code c) :
    significant (scan code) = hd.before ++ hd.keyword :: (hd.inner ++ c.openToken :: hd.body) := by
  simpa [inner] using hd.tokens

theorem keyword_lt_of_mem_inner (hd : LocatedHeader code c) {u : Token} (hu : u ∈ hd.inner) :
    hd.keyword.start < u.start ∧ u.start < c.opening := by
  have hpairwise := significant_pairwise code
  rw [hd.tokens_inner] at hpairwise
  obtain ⟨hkeyword, hrest⟩ := List.pairwise_cons.mp (List.pairwise_append.mp hpairwise).2.1
  exact ⟨hkeyword u (by simp [hu]), (List.pairwise_append.mp hrest).2.2 u hu c.openToken (by simp)⟩

theorem keyword_lt_opening (hd : LocatedHeader code c) : hd.keyword.start < c.opening := by
  have hpairwise := significant_pairwise code
  rw [hd.tokens_inner] at hpairwise
  exact (List.pairwise_cons.mp (List.pairwise_append.mp hpairwise).2.1).1 c.openToken (by simp)

/-- A token that begins behind the keyword and not behind the brace is one of the header. -/
theorem mem_inner_of_start (hd : LocatedHeader code c) {u : Token}
    (hu : u ∈ significant (scan code)) (hlo : hd.keyword.start < u.start)
    (hhi : u.start ≤ c.opening) (hident : u.kind = .ident) :
    u ∈ hd.inner := by
  have hpairwise := significant_pairwise code
  rw [hd.tokens_inner] at hpairwise hu
  obtain ⟨_, hrest, hbefore⟩ := List.pairwise_append.mp hpairwise
  obtain ⟨_, hopen, _⟩ := List.pairwise_append.mp (List.pairwise_cons.mp hrest).2
  rcases List.mem_append.mp hu with hu | hu
  · have := hbefore u hu hd.keyword List.mem_cons_self
    omega
  · rcases List.mem_cons.mp hu with rfl | hu
    · omega
    · rcases List.mem_append.mp hu with hu | hu
      · exact hu
      · rcases List.mem_cons.mp hu with rfl | hu
        · cases hident
        · have : c.opening < u.start := (List.pairwise_cons.mp hopen).1 u hu
          omega

/-- The identifiers in the list of parameters are the two parameters. -/
theorem text_of_mem_params (hd : LocatedHeader code c) {u : Token} (hu : u ∈ hd.params)
    (hident : u.kind = .ident) : u.text = Bytes.lit "props" ∨ u.text = Bytes.lit "el" := by
  have htext : u.text ∈ ["(", "props", ",", "el", ")"].map Bytes.lit :=
    hd.params_eq ▸ List.mem_map_of_mem hu
  have husig : u ∈ significant (scan code) := by simp [hd.tokens, hu]
  obtain ⟨b, tl, hbytes, hb⟩ :=
    (scans_scan code).isIdentByte_head (mem_scan_of_mem_significant husig) hident
  have hparams :
      ∀ w ∈ ["(", "props", ",", "el", ")"].map Bytes.lit, w.head?.any isIdentByte = true →
      w = Bytes.lit "props" ∨ w = Bytes.lit "el" := by decide
  exact hparams u.text htext (by simp [hbytes, hb])

/-- Hooks other than the parameters begin nowhere in the header but at the name of a generator. -/
theorem mem_hookOffsets_iff (hd : LocatedHeader code c) {hooks : List Bytes}
    (hprops : Bytes.lit "props" ∉ hooks) (hel : Bytes.lit "el" ∉ hooks) {i : Nat}
    (hlo : hd.keyword.start < i) (hhi : i ≤ c.opening) :
    i ∈ hookOffsets code hooks ↔ hd.star.isSome ∧ ∃ u ∈ hd.name, u.text ∈ hooks ∧ u.start = i := by
  have hname : ∀ u ∈ hd.name, (⟨u.start, memberOf⟩ ∈ hookSplices code hooks ↔
      hd.star.isSome ∧ u.text ∈ hooks) := by
    intro u hu
    have hsig := hd.tokens
    rw [Option.mem_def.mp hu] at hsig
    exact mem_hookSplices_declared hooks hsig hd.keyword_eq hd.star_eq (hd.name_kind u hu)
  constructor
  · intro hi
    obtain ⟨s, hs, rfl⟩ := List.mem_map.mp hi
    obtain ⟨u, hu, rfl⟩ := List.mem_map.mp hs
    obtain ⟨hident, hhook⟩ := hook_of_mem_hookReferences hu
    have husig := (hookReferences_sublist _ _ _ _).mem hu
    rcases List.mem_append.mp (hd.mem_inner_of_start husig hlo hhi hident) with hmem | hmem
    · have hpunct := (Token.isPunct_iff.mp (hd.star_eq u (Option.mem_toList.mp hmem))).1
      rw [hident] at hpunct
      cases hpunct
    · rcases List.mem_append.mp hmem with hmem | hmem
      · have hu := Option.mem_toList.mp hmem
        obtain ⟨hstar, hhook⟩ := (hname u hu).mp hs
        exact ⟨hstar, u, hu, hhook, rfl⟩
      · rcases hd.text_of_mem_params hmem hident with h | h
        · exact absurd (h ▸ hhook) hprops
        · exact absurd (h ▸ hhook) hel
  · rintro ⟨hstar, u, hu, hhook, rfl⟩
    exact List.mem_map_of_mem ((hname u hu).mpr ⟨hstar, hhook⟩)

end LocatedHeader

/-! ## Offsets of a traced text -/

namespace Traced

/-- The offset that a byte is kept from. -/
def offset? : Traced → Option Nat
  | kept n _ => some n
  | inserted _ => none

theorem offsets_insertion (x : Bytes) : (insertion x).filterMap offset? = [] := by
  simp [insertion, offset?, List.filterMap_eq_nil_iff]

theorem keptFrom_append (n : Nat) (x y : Bytes) :
    keptFrom n (x ++ y) = keptFrom n x ++ keptFrom (n + x.length) y := by
  induction x generalizing n with
  | nil => rfl
  | cons b x ih =>
      rw [List.cons_append, keptFrom, ih, keptFrom, List.cons_append, List.length_cons,
        show n + 1 + x.length = n + (x.length + 1) by omega]

/-- A byte of the code stands only once in a text that keeps no offset twice. -/
theorem eq_of_append_kept {u v u' v' : List Traced} {n : Nat} {b b' : UInt8}
    (hnodup : ((u ++ kept n b :: v).filterMap offset?).Nodup)
    (h : u ++ kept n b :: v = u' ++ kept n b' :: v') : u = u' := by
  have htwice : ∀ (a a' : UInt8) (x y z : List Traced),
      ¬((x ++ kept n a :: (y ++ kept n a' :: z)).filterMap offset?).Nodup := by
    intro a a' x y z
    simp [offset?, List.nodup_append]
  rcases List.append_eq_append_iff.mp h with ⟨more, rfl, hv⟩ | ⟨more, rfl, hv⟩
  · cases more with
    | nil => rw [List.append_nil]
    | cons e more =>
        obtain ⟨rfl, rfl⟩ := List.cons.inj hv
        exact absurd hnodup (htwice b b' u more v')
  · cases more with
    | nil => rw [List.append_nil]
    | cons e more =>
        obtain ⟨rfl, rfl⟩ := List.cons.inj hv
        rw [List.append_assoc] at hnodup
        exact absurd hnodup (htwice b' b u' more v)

/-- A stretch of the code is not in one piece if something is inserted before a byte of it other
than the first one. -/
theorem keptFrom_not_infix {u v : List Traced} {a b : UInt8} {i n : Nat} {x : Bytes}
    (hnodup : ((u ++ [inserted a] ++ kept i b :: v).filterMap offset?).Nodup) (hlo : n < i)
    (hhi : i < n + x.length) : ¬keptFrom n x <:+: u ++ [inserted a] ++ kept i b :: v := by
  rintro ⟨before, behind, hwhole⟩
  -- the stretch is cut in front of the byte, and in front of the one before it
  obtain ⟨front, c, d, back, hx, hlen⟩ : ∃ front c d back, x = front ++ [c] ++ d :: back ∧
      n + (front.length + 1) = i := by
    obtain ⟨k, rfl⟩ : ∃ k, i = n + (k + 1) := ⟨i - n - 1, by omega⟩
    refine ⟨x.take k, x.get ⟨k, by omega⟩, x.get ⟨k + 1, by omega⟩, x.drop (k + 2), ?_, ?_⟩
    · simp
    · rw [List.length_take]
      omega
  have hkept : before ++ keptFrom n x ++ behind =
      (before ++ keptFrom n front ++ [kept (n + front.length) c]) ++ kept i d ::
        (keptFrom (i + 1) back ++ behind) := by
    rw [hx, keptFrom_append, keptFrom_append, List.length_append, List.length_singleton, hlen]
    simp [keptFrom]
  have heq := eq_of_append_kept hnodup (hwhole.symm.trans hkept)
  -- the byte in front would be inserted and kept
  cases (List.cons.inj (List.append_inj' heq rfl).2).1

end Traced

theorem offsets_hooked (offsets : List Nat) (n : Nat) (x : Bytes) :
    (hooked offsets n x).filterMap Traced.offset? = List.range' n x.length := by
  induction x generalizing n with
  | nil => rfl
  | cons b x ih =>
      have hinserted :
          (if n ∈ offsets then Traced.insertion memberOf else []).filterMap Traced.offset? =
          [] := by
        split
        · exact Traced.offsets_insertion memberOf
        · rfl
      have hkept : Traced.offset? (.kept n b) = some n := rfl
      rw [hooked, List.filterMap_append, hinserted, List.filterMap_cons_some hkept, ih,
        List.length_cons, List.range'_succ, List.nil_append]

/-- The insertion at one of the offsets. -/
theorem hooked_of_mem {offsets : List Nat} {n i : Nat} {x : Bytes} (hi : i ∈ offsets) (hlo : n ≤ i)
    (hhi : i < n + x.length) :
    ∃ u b v, hooked offsets n x = u ++ Traced.insertion memberOf ++ .kept i b :: v := by
  induction x generalizing n with
  | nil =>
      rw [List.length_nil] at hhi
      omega
  | cons b x ih =>
      rw [List.length_cons] at hhi
      by_cases hn : n = i
      · subst hn
        exact ⟨[], b, hooked offsets (n + 1) x, by rw [hooked, if_pos hi, List.nil_append]⟩
      · obtain ⟨u, b', v, hrest⟩ := ih (n := n + 1) (by omega) (by omega)
        refine ⟨(if n ∈ offsets then Traced.insertion memberOf else []) ++ .kept n b :: u,
          b', v, ?_⟩
        rw [hooked, hrest]
        simp

end ComponentCompiler.Script

namespace ComponentCompiler.Component

open Script
open Script.Traced (insertion keptFrom)

section

variable {code : Bytes} {c : Constructor}

theorem length_take_opening (cut : Cut code c) :
    (code.take (c.opening + 1)).length = c.opening + 1 := by
  rw [take_opening cut, cut.opening_eq, List.length_append, List.length_singleton]

/-- A woven script keeps every offset of the script, and in order. -/
theorem offsets_layout (cut : Cut code c) (main : Bytes) (entries : List Template.Entry)
    (hooks : List Bytes) :
    (layout code main entries hooks c).filterMap Traced.offset? = List.range' 0 code.length := by
  have hbody : c.opening + 1 + (slice code (c.opening + 1) c.closing).length = c.closing := by
    rw [slice_body cut, cut.opening_eq, cut.closing_eq]
  have hback : c.closing + (code.drop c.closing).length = code.length := by
    have hlen := congrArg List.length (drop_closing cut)
    rw [List.length_drop, List.length_cons] at hlen
    rw [List.length_drop]
    omega
  have hjoin :
      ∀ {m k n : Nat}, m + k = n → List.range' 0 m ++ List.range' m k = List.range' 0 n := by
    rintro m k n rfl
    rw [← List.range'_append_1, Nat.zero_add]
  simp only [layout, List.filterMap_append, offsets_hooked, Traced.offsets_insertion,
    List.append_nil]
  rw [length_take_opening cut, hjoin hbody, hjoin hback]

theorem hooked_prefix_layout (code main : Bytes) (entries : List Template.Entry)
    (hooks : List Bytes) (c : Constructor) :
    hooked (hookOffsets code hooks) 0 (code.take (c.opening + 1)) <+:
      layout code main entries hooks c := by
  simp only [layout, List.append_assoc]
  exact List.prefix_append _ _

theorem length_header (hd : LocatedHeader code c) (cut : Cut code c) :
    hd.text.length = c.opening + 1 - hd.keyword.start := by
  have hlen := congrArg List.length (drop_opening cut)
  rw [List.length_drop, List.length_append, List.length_cons] at hlen
  rw [LocatedHeader.text, slice, List.length_take, List.length_drop]
  omega

/-- The code up to the brace is what stands in front of the header, and the header. -/
theorem take_keyword (hd : LocatedHeader code c) :
    code.take (c.opening + 1) = code.take hd.keyword.start ++ hd.text := by
  have hlt := hd.keyword_lt_opening
  rw [LocatedHeader.text, slice, ← List.take_add]
  congr 1
  omega

theorem length_take_keyword (hd : LocatedHeader code c) (cut : Cut code c) :
    (code.take hd.keyword.start).length = hd.keyword.start := by
  have hlen := congrArg List.length (drop_opening cut)
  have hlt := hd.keyword_lt_opening
  rw [List.length_drop, List.length_append, List.length_cons] at hlen
  rw [List.length_take]
  omega

variable {hooks : List Bytes}

/-- A header without a hook in it stays in one piece. -/
theorem header_infix (hd : LocatedHeader code c) (cut : Cut code c)
    (hprops : Bytes.lit "props" ∉ hooks) (hel : Bytes.lit "el" ∉ hooks)
    (hplain : ¬hd.IsHookedGenerator hooks) (main : Bytes) (entries : List Template.Entry) :
    keptFrom hd.keyword.start hd.text <:+: layout code main entries hooks c := by
  have hlen := length_header hd cut
  have hlt := hd.keyword_lt_opening
  have hfree : ∀ i, hd.keyword.start < i → i < hd.keyword.start + hd.text.length →
      i ∉ hookOffsets code hooks := by
    intro i hlo hhi hi
    obtain ⟨hstar, u, hu, hhook, _⟩ := (hd.mem_hookOffsets_iff hprops hel hlo (by omega)).mp hi
    exact hplain ⟨hstar, u, hu, hhook⟩
  refine List.IsInfix.trans ?_ (hooked_prefix_layout code main entries hooks c).isInfix
  rw [take_keyword hd, hooked_append, length_take_keyword hd cut, Nat.zero_add]
  cases htext : hd.text with
  | nil =>
      rw [htext, List.length_nil] at hlen
      omega
  | cons b tl =>
      rw [htext] at hfree
      rw [hooked_token hfree, ← List.append_assoc]
      exact (List.suffix_append _ _).isInfix

/-- In the header of a generator named like a hook, the name is cut off. -/
theorem header_not_infix (hd : LocatedHeader code c) (cut : Cut code c)
    (hprops : Bytes.lit "props" ∉ hooks) (hel : Bytes.lit "el" ∉ hooks)
    (hgen : hd.IsHookedGenerator hooks) (main : Bytes) (entries : List Template.Entry) :
    ¬keptFrom hd.keyword.start hd.text <:+: layout code main entries hooks c := by
  obtain ⟨hstar, u, hu, hhook⟩ := hgen
  obtain ⟨hlo, hhi⟩ :=
    hd.keyword_lt_of_mem_inner (u := u) (by simp [LocatedHeader.inner, Option.mem_def.mp hu])
  have href : u.start ∈ hookOffsets code hooks :=
    (hd.mem_hookOffsets_iff hprops hel hlo (by omega)).mpr ⟨hstar, u, hu, hhook, rfl⟩
  have hlen := length_header hd cut
  obtain ⟨front, b, back, hname⟩ :=
    hooked_of_mem href (Nat.zero_le _) (x := code.take (c.opening + 1)) (by
    rw [length_take_opening cut]
    omega)
  obtain ⟨rest, hrest⟩ := hooked_prefix_layout code main entries hooks c
  have hwoven : layout code main entries hooks c =
      front ++ insertion (Bytes.lit "this") ++ [.inserted Ascii.dot] ++ .kept u.start b ::
        (back ++ rest) := by
    have hdot :
        insertion memberOf = insertion (Bytes.lit "this") ++ [.inserted Ascii.dot] := by decide
    rw [← hrest, hname, hdot]
    simp
  have hnodup := List.nodup_range' (s := 0) (n := code.length)
  rw [← offsets_layout cut main entries hooks, hwoven] at hnodup
  rw [hwoven]
  exact Traced.keptFrom_not_infix hnodup hlo (by omega)

end

/-- An identifier behind `function`, with or without a star between them, is rewritten exactly
if there is a star and the identifier is a hook. Weaving succeeds exactly where a constructor is
located. The header of the constructor then comes through in one piece, byte for byte, exactly
if the constructor is no generator named like a hook, and in that case its text occurs in the
woven script. -/
theorem weave_keeps_header_iff (code main : Bytes) (registry : Template.Registry)
    (hooks : List Bytes) :
    (∀ (before : List Token) (keyword : Token) (star : Option Token) (t : Token)
      (behind : List Token),
      significant (scan code) = before ++ keyword :: (star.toList ++ t :: behind) →
      keyword.isIdent (Bytes.lit "function") → (∀ s ∈ star, s.isPunct Ascii.star) →
        t.kind = .ident →
      (⟨t.start, Bytes.lit "this."⟩ ∈ hookSplices code hooks ↔ star.isSome ∧ t.text ∈ hooks)) ∧
    (∀ out, weave code main registry hooks = .ok out ↔
      ∃ c, locate code = .ok c ∧ Traced.text (layout code main registry.entries hooks c) = out) ∧
    (∀ c, locate code = .ok c → Bytes.lit "props" ∉ hooks → Bytes.lit "el" ∉ hooks →
      Nonempty (LocatedHeader code c) ∧ ∀ hd : LocatedHeader code c,
        (keptFrom hd.keyword.start hd.text <:+: layout code main registry.entries hooks c ↔
          ¬hd.IsHookedGenerator hooks) ∧
        (¬hd.IsHookedGenerator hooks →
          hd.text <:+: Traced.text (layout code main registry.entries hooks c))) := by
  refine ⟨fun before keyword star t behind hsig hkeyword hstar hident =>
    mem_hookSplices_declared hooks hsig hkeyword hstar hident, fun out => ?_,
      fun c hc hprops hel => ?_⟩
  · cases hc : locate code with
    | error fault => simp [weave, hc, Except.map]
    | ok c =>
        obtain ⟨cut⟩ := locate_cut hc
        simp [weave_of_cut hc cut]
  · obtain ⟨cut⟩ := locate_cut hc
    refine ⟨locate_header hc, fun hd => ?_⟩
    have hkeeps : ¬hd.IsHookedGenerator hooks →
        keptFrom hd.keyword.start hd.text <:+: layout code main registry.entries hooks c :=
          fun hplain =>
      header_infix hd cut hprops hel hplain main registry.entries
    refine ⟨⟨fun hwhole hgen => ?_, hkeeps⟩, fun hplain => ?_⟩
    · exact header_not_infix hd cut hprops hel hgen main registry.entries hwhole
    · have htext := (hkeeps hplain).map Traced.byte
      rwa [show (keptFrom hd.keyword.start hd.text).map Traced.byte = hd.text from
        Traced.text_keptFrom _ _] at htext

/-- A constructor named like a hook, with comments around the name. -/
def namedScript : Bytes := Bytes.lit "function/**/go /* go */ (props, el) {go()}"

theorem weave_keeps_header_named :
    locate namedScript = .ok ⟨Bytes.lit "go", Bytes.lit "(props, el)", 36, 41⟩ ∧
    ∃ out, weave namedScript (Bytes.lit "0") {} [Bytes.lit "go"] = .ok out ∧
      Bytes.lit "function/**/go /* go */ (props, el) " ++ [Ascii.openBrace] <:+: out := by
  have hlocate :
      locate namedScript = .ok ⟨Bytes.lit "go", Bytes.lit "(props, el)", 36, 41⟩ := by cbv
  obtain ⟨_, hweave, hheader⟩ :=
    weave_keeps_header_iff namedScript (Bytes.lit "0") {} [Bytes.lit "go"]
  obtain ⟨⟨hd⟩, hkeeps⟩ := hheader _ hlocate (by decide) (by decide)
  have htokens : ∀ t ∈ significant (scan namedScript), ¬t.isPunct Ascii.star ∧
      (t.isIdent (Bytes.lit "function") → t.start = 0) := by decide +kernel
  have hstar : ¬hd.star.isSome := by
    intro hstar
    obtain ⟨s, hs⟩ := Option.isSome_iff_exists.mp hstar
    exact (htokens s (by rw [hd.tokens]; simp [hs])).1 (hd.star_eq s hs)
  have hkeyword := (htokens hd.keyword (by rw [hd.tokens]; simp)).2 hd.keyword_eq
  have htext : hd.text = Bytes.lit "function/**/go /* go */ (props, el) " ++ [Ascii.openBrace] := by
    rw [LocatedHeader.text, hkeyword]
    decide +kernel
  exact ⟨hlocate, _, (hweave _).mpr ⟨_, hlocate, rfl⟩, htext ▸ (hkeeps hd).2 fun h => hstar h.1⟩

/-- A generator named like a hook. -/
def generatorScript : Bytes := Bytes.lit "function *go(props, el) {}"

/-- The name of a generator is rewritten, and its header is gone. -/
theorem weave_rewrites_generator_name :
    hookSplices generatorScript [Bytes.lit "go"] = [⟨10, Bytes.lit "this."⟩] ∧
    ∃ out, weave generatorScript (Bytes.lit "0") {} [Bytes.lit "go"] = .ok out ∧
      Bytes.lit "function *this.go(props, el) " ++ [Ascii.openBrace] <+: out ∧
      ¬Bytes.lit "function *go(props, el) " ++ [Ascii.openBrace] <:+: out := by
  exact ⟨by decide +kernel, Bytes.lit "function *this.go(props, el) " ++ [Ascii.openBrace] ++
    wrapperOpening ++
    Bytes.lit "\n" ++ returnLine (Bytes.lit "0") ++ wrapperClosing ++ [Ascii.closeBrace], by cbv,
    by decide +kernel, by decide +kernel⟩

end ComponentCompiler.Component
