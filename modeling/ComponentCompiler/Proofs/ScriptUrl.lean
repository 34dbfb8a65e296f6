import ComponentCompiler.Proofs.Contributions
import ComponentCompiler.Proofs.LiteralValue
import ComponentCompiler.Proofs.UnsafeMarkup
import ComponentCompiler.Template.Block

/-!
# Script URLs in compiled templates

A sanitized template holds no script URL in its markup, but its markup is not what reaches the page:
the code of an attribute is a string literal, and a value that already stands between quotes is that
literal. The check reads such a value with its quotes and never finds a script URL in it.
-/

namespace ComponentCompiler.Template

open Markup (Node Attribute)

/-! ## What a script URL starts with -/

/-- The character that a script URL starts with is one whose lower-case form is the letter j. -/
theorem head_of_isScriptUrl {v : Bytes} (h : isScriptUrl v) :
    ∃ c, ((Utf8.chars v).filter fun c => 0x20 < c.toNat).head? = some c ∧
      (Utf8.encodeCode (Text.lowerCode c.toNat)).head? = some 0x6a := by
  simp only [isScriptUrl, Text.toLower, Utf8.decode_encodeChars, List.flatMap_map] at h
  cases hkept : (Utf8.chars v).filter fun c => 0x20 < c.toNat with
  | nil =>
      rw [hkept] at h
      exact absurd h (by decide)
  | cons c kept =>
      rw [hkept, List.flatMap_cons] at h
      refine ⟨c, rfl, ?_⟩
      cases hc : Utf8.encodeCode (Text.lowerCode c.toNat) with
      | nil => exact absurd hc String.utf8EncodeChar_ne_nil
      | cons b tl =>
          have hcode : Utf8.encodeCode (Text.lowerCode (Rune.scalar c).code) = b :: tl := hc
          have hlit : Bytes.lit "javascript:" = 0x6a :: Bytes.lit "avascript:" := by decide
          rw [hcode, Bytes.startsWith, hlit, List.cons_append, List.isPrefixOf_cons_cons,
            Bool.and_eq_true, beq_iff_eq] at h
          rw [h.1, List.head?_cons]

/-- The white space that is not dropped in front of a script URL. -/
def widerBlanks : List Nat :=
  [0x85, 0xa0, 0x1680, 0x2000, 0x2001, 0x2002, 0x2003, 0x2004, 0x2005, 0x2006, 0x2007,
    0x2008, 0x2009,
    0x200a, 0x2028, 0x2029, 0x202f, 0x205f, 0x3000]

theorem mem_widerBlanks {c : Char} (h : Text.isBlank c) (hc : 0x20 < c.toNat) :
    c.toNat ∈ widerBlanks := by
  simp only [Text.isBlank, Bool.or_eq_true, Bool.and_eq_true, decide_eq_true_eq, beq_iff_eq] at h
  simp only [widerBlanks, List.mem_cons, List.not_mem_nil, or_false]
  omega

/-- No quote, brace or white space is a letter. -/
theorem lowerCode_head_ne : ∀ n ∈ 0x22 :: 0x27 :: 0x60 :: 0x7b :: widerBlanks,
    (Utf8.encodeCode (Text.lowerCode n)).head? ≠ some 0x6a := by decide +kernel

/-- A text whose first characters, up to one that is no letter, are white space is no script URL. -/
theorem not_isScriptUrl {v : Bytes} {pre post : List Char} {x : Char}
    (hv : Utf8.chars v = pre ++ x :: post) (hpre : ∀ c ∈ pre, Text.isBlank c)
    (hx : x.toNat ∈ [0x22, 0x27, 0x60, 0x7b]) : isScriptUrl v = false := by
  rw [Bool.eq_false_iff]
  intro h
  obtain ⟨c, hhead, hletter⟩ := head_of_isScriptUrl h
  have hkept : 0x20 < x.toNat := by
    simp only [List.mem_cons, List.not_mem_nil, or_false] at hx
    omega
  refine lowerCode_head_ne c.toNat ?_ hletter
  rw [hv, List.filter_append, List.filter_cons_of_pos (by simpa using hkept)] at hhead
  cases hblank : pre.filter fun c => 0x20 < c.toNat with
  | nil =>
      obtain rfl : x = c := by simpa [hblank] using hhead
      exact List.mem_append_left widerBlanks hx
  | cons b bs =>
      obtain rfl : b = c := by simpa [hblank] using hhead
      have hb : b ∈ pre.filter fun c => 0x20 < c.toNat := by simp [hblank]
      obtain ⟨hmem, hb⟩ := List.mem_filter.mp hb
      have := mem_widerBlanks (hpre b hmem) (by simpa using hb)
      simp [this]

theorem not_isScriptUrl_of_isQuoted {v : Bytes} (h : Script.isQuoted v) :
    isScriptUrl v = false := by
  cases v with
  | nil => cases h
  | cons q rest =>
      simp only [Script.isQuoted, Bool.and_eq_true, Bool.or_eq_true, beq_iff_eq] at h
      have hchars : ∀ c : Char, String.utf8EncodeChar c = [q] →
          Utf8.chars (q :: rest) = [] ++ c :: Utf8.chars rest := by
        intro c hc
        have hdecode := Utf8.decode_scalar hc rest
        rw [List.nil_append] at hdecode
        rw [Utf8.chars, hdecode]
        rfl
      rcases h.1 with (rfl | rfl) | rfl
      · exact not_isScriptUrl (hchars (Char.ofNat 0x22) (by decide)) (by simp) (by decide)
      · exact not_isScriptUrl (hchars (Char.ofNat 0x27) (by decide)) (by simp) (by decide)
      · exact not_isScriptUrl (hchars (Char.ofNat 0x60) (by decide)) (by simp) (by decide)

/-- A value in braces is no script URL. -/
theorem not_isScriptUrl_of_isBraced {v : Bytes} (h : isBraced (Text.trim v)) :
    isScriptUrl v = false := by
  simp only [isBraced, Bool.and_eq_true, beq_iff_eq] at h
  -- the brace is the first rune that is not white space
  obtain ⟨more, hmore⟩ := Text.dropWhile_decode_of_head?_trim (c := '{') (by decide) h.1
  have hchars : Utf8.chars v = ((Utf8.decode v).takeWhile Text.isBlankRune).map Rune.toChar ++
      '{' :: more.map Rune.toChar := by
    have hall := List.takeWhile_append_dropWhile (p := Text.isBlankRune) (l := Utf8.decode v)
    rw [hmore] at hall
    rw [Utf8.chars, ← congrArg (List.map Rune.toChar) hall, List.map_append, List.map_cons]
    rfl
  refine not_isScriptUrl hchars ?_ (by decide)
  intro c hc
  obtain ⟨r, hr, rfl⟩ := List.mem_map.mp hc
  have hblank := List.mem_takeWhile_imp hr
  cases r with
  | scalar c => exact hblank
  | stray b => cases hblank

/-- A value that passes the check is no script URL as it stands. -/
theorem not_isScriptUrl_of_safe {a : Attribute} (h : isUnsafeAttribute a = false)
    (hkey : a.key ∈ urlKeys) : isScriptUrl a.value = false := by
  cases hbraced : isBraced (Text.trim a.value) with
  | true => exact not_isScriptUrl_of_isBraced hbraced
  | false =>
      simpa [isUnsafeAttribute, hbraced, hkey] using h

/-! ## What is emitted -/

theorem isEventKey_urlKeys : ∀ key ∈ urlKeys, isEventKey key = false := by decide +kernel

/-- The code of a URL is its value if that is quoted, and otherwise a literal of it. -/
theorem attributeValue_of_urlKey {a : Attribute} (hkey : a.key ∈ urlKeys) :
    attributeValue a = Script.quoteText a.value := by
  rw [attributeValue, isEventKey_urlKeys a.key hkey]
  rfl

/-- Whether the code of an attribute is a literal that denotes a script URL. -/
def DenotesScriptUrl (code : Bytes) : Prop :=
  ∃ url, Script.literalValue? code = some url ∧ isScriptUrl (Utf8.encodeChars url)

theorem isScriptUrl_encodeChars_chars (v : Bytes) :
    isScriptUrl (Utf8.encodeChars (Utf8.chars v)) = isScriptUrl v := by
  simp only [isScriptUrl, Utf8.chars_encodeChars]

/-- The literal of a value that is not quoted denotes that value. -/
theorem denotesScriptUrl_of_not_isQuoted {v : Bytes} (h : Script.isQuoted v = false) :
    DenotesScriptUrl (Script.quoteText v) ↔ isScriptUrl v := by
  have hvalue : Script.literalValue? (Script.quoteText v) = some (Utf8.chars v) := by
    rw [Script.quoteText, h, if_neg (by decide), Script.literalValue?_quote]
  constructor
  · rintro ⟨url, hurl, hscript⟩
    rw [hvalue] at hurl
    obtain rfl := Option.some.inj hurl
    rwa [isScriptUrl_encodeChars_chars] at hscript
  · intro hscript
    exact ⟨_, hvalue, by rwa [isScriptUrl_encodeChars_chars]⟩

/-! ## Elements of an accepted block -/

/-- `Rendered registry n m`: compiling the element `n` also compiles the element `m`, which is `n`
or stands below it with no reference to a sub-component around it. -/
inductive Rendered (registry : Registry) : Node → Node → Prop
  | self {n : Node} (hn : n.isElement) : Rendered registry n n
  | child {tag : Bytes} {attrs : List Attribute} {children : List Node} {line : Int} {n m : Node}
      (hn : n ∈ children) (helement : n.isElement) (hkey : registry.lookup? n.tag = none)
      (h : Rendered registry n m) : Rendered registry (.element tag attrs children line) m

theorem Rendered.isElement {registry : Registry} {n m : Node} (h : Rendered registry n m) :
    m.isElement := by
  induction h with
  | self hn => exact hn
  | child _ _ _ _ ih => exact ih

theorem Rendered.eq_or_descends {registry : Registry} {n m : Node} (h : Rendered registry n m) :
    m = n ∨ n.Descends m := by
  induction h with
  | self => exact .inl rfl
  | child hmem _ _ _ ih => exact .inr (Node.descends_iff.mpr ⟨_, hmem, ih⟩)

/-- No attribute of an element that an accepted block renders is found unsafe. -/
theorem Rendered.safe {registry : Registry} {key container : Bytes} {n m : Node} {a : Attribute}
    (h : Rendered registry (Block.ofNode key container n).node m)
    (haccepted : validate (Block.ofNode key container n).node key = none) (ha : a ∈ m.attrs) :
    isUnsafeAttribute a = false := by
  rcases h.eq_or_descends with rfl | hbelow
  · cases ha
  · have hsafe := validate_eq_none_iff.mp haccepted m hbelow h.isElement
    rw [Bool.eq_false_iff]
    intro hunsafe
    exact hsafe (.inr ⟨a, ha, isUnsafeAttribute_iff.mp hunsafe⟩)

/-- The URLs of an accepted block after compiling. The literal that an element's call holds for a
URL denotes a script URL exactly if the value stands between quotes in the markup and denotes one as
a literal itself; such values are never found unsafe. -/
theorem url_denotesScriptUrl_iff {registry : Registry} {key container : Bytes} {n m : Node}
    {call : Render.Expr} {a : Attribute}
    (haccepted : validate (Block.ofNode key container n).node key = none)
    (hm : Rendered registry (Block.ofNode key container n).node m)
    (hcall : (compileElement registry key m).result = .ok call) (ha : a ∈ m.attrs)
    (hkey : a.key ∈ urlKeys) :
    (∃ props items, call = .call m.tag props items ∧ ⟨a.key, attributeValue a⟩ ∈ props) ∧
      (DenotesScriptUrl (attributeValue a) ↔
        Script.isQuoted a.value ∧ DenotesScriptUrl a.value) ∧
      ∀ v, Script.isQuoted v → isUnsafeAttribute ⟨a.key, v⟩ = false := by
  refine ⟨?_, ?_, fun v hv => ?_⟩
  · cases faithful_of_compileElement hm.isElement hcall with
    | @call tag attrs children line items _ =>
        exact ⟨attributeProps attrs, items, rfl, List.mem_map_of_mem ha⟩
  · rw [attributeValue_of_urlKey hkey]
    cases hquoted : Script.isQuoted a.value with
    | true => simp [Script.quoteText, hquoted]
    | false =>
        have hsafe := not_isScriptUrl_of_safe (hm.safe haccepted ha) hkey
        simp [denotesScriptUrl_of_not_isQuoted hquoted, hsafe]
  · simp [isUnsafeAttribute, not_isScriptUrl_of_isQuoted hv]

/-- A link whose address is a quoted script URL. -/
def quotedLink : Node :=
  .element (Bytes.lit "a") [⟨Bytes.lit "href", Bytes.lit "\"javascript:alert(1)\""⟩] [] 1

theorem url_denotesScriptUrl_quoted :
    validate (Block.ofNode (Bytes.lit "Main") (Bytes.lit "div")
        (.element (Bytes.lit "template") [] [quotedLink] 1)).node (Bytes.lit "Main") = none ∧
      DenotesScriptUrl
        (attributeValue ⟨Bytes.lit "href", Bytes.lit "\"javascript:alert(1)\""⟩) := by
  have haccepted : validate (Block.ofNode (Bytes.lit "Main") (Bytes.lit "div")
      (.element (Bytes.lit "template") [] [quotedLink] 1)).node (Bytes.lit "Main") = none := by
    cbv
  have hrendered : Rendered {} (Block.ofNode (Bytes.lit "Main") (Bytes.lit "div")
      (.element (Bytes.lit "template") [] [quotedLink] 1)).node quotedLink :=
    .child List.mem_cons_self rfl rfl (.self rfl)
  have hcall : (compileElement {} (Bytes.lit "Main") quotedLink).result =
      .ok (.call (Bytes.lit "a") (attributeProps quotedLink.attrs) []) := rfl
  have hvalue : DenotesScriptUrl (Bytes.lit "\"javascript:alert(1)\"") :=
    ⟨Utf8.chars (Bytes.lit "javascript:alert(1)"), by decide +kernel, by decide +kernel⟩
  exact ⟨haccepted, (url_denotesScriptUrl_iff haccepted hrendered hcall List.mem_cons_self
    (by decide)).2.1.mpr ⟨by decide, hvalue⟩⟩

end ComponentCompiler.Template
