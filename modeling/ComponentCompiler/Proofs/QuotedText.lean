import ComponentCompiler.Proofs.Quoting
import Mathlib

/-!
# Quoted texts, read back as bytes

A byte string is repaired by putting the replacement character for each byte at which no UTF-8 form
of a character begins. `Repaired` says this without reading the bytes from the front, as
`Utf8.chars` does. The literal that `quote` writes denotes the repaired byte string, and it is a
text without control characters.
-/

namespace ComponentCompiler.Utf8

/-! ## Repaired byte strings -/

/-- The bytes are the UTF-8 form of characters. -/
def IsText (s : Bytes) : Prop := ∃ cs, s = encodeChars cs

/-- Byte strings with each byte that begins no UTF-8 form of a character replaced, from
left to right. -/
inductive Repaired : Bytes → Bytes → Prop
  | nil : Repaired [] []
  | scalar (c : Char) {s s' : Bytes} (h : Repaired s s') :
      Repaired (String.utf8EncodeChar c ++ s) (String.utf8EncodeChar c ++ s')
  | stray (b : UInt8) {s s' : Bytes} (hb : ∀ c, ¬String.utf8EncodeChar c <+: b :: s)
    (h : Repaired s s') :
      Repaired (b :: s) (String.utf8EncodeChar Rune.replacement ++ s')

theorem isValid_iff {s : Bytes} : isValid s = true ↔ IsText s := by
  constructor
  · exact fun h => ⟨chars s, (encodeChars_chars h).symm⟩
  · rintro ⟨cs, rfl⟩
    simp [isValid, decode_encodeChars]

theorem chars_scalar (c : Char) (s : Bytes) :
    chars (String.utf8EncodeChar c ++ s) = c :: chars s := by
  cases h : String.utf8EncodeChar c with
  | nil => exact absurd h String.utf8EncodeChar_ne_nil
  | cons a tl =>
      rw [List.cons_append, chars, decode_scalar h]
      rfl

theorem chars_stray {a : UInt8} {s : Bytes} (h : front a s = .stray a) :
    chars (a :: s) = Rune.replacement :: chars s := by
  rw [chars, decode_stray h]
  rfl

/-- A byte is stray just in case no character begins there. -/
theorem front_eq_stray_iff {a : UInt8} {s : Bytes} :
    front a s = .stray a ↔ ∀ c, ¬String.utf8EncodeChar c <+: a :: s := by
  constructor
  · rintro hstray c ⟨more, hmore⟩
    cases h : String.utf8EncodeChar c with
    | nil => exact String.utf8EncodeChar_ne_nil h
    | cons b tl =>
        rw [h, List.cons_append] at hmore
        obtain ⟨rfl, rfl⟩ := List.cons.inj hmore
        rw [front_eq_scalar h] at hstray
        cases hstray
  · intro hnone
    rcases decode_cases a s with ⟨c, tl, more, rfl, hc⟩ | hstray
    · exact absurd ⟨more, by rw [hc, List.cons_append]⟩ (hnone c)
    · exact hstray

/-- There is one repaired form of a byte string: the one with its characters. -/
theorem repaired_iff {s s' : Bytes} : Repaired s s' ↔ s' = encodeChars (chars s) := by
  constructor
  · intro h
    induction h with
    | nil => simp [chars, encodeChars]
    | scalar c _ ih => rw [chars_scalar, ih, encodeChars, encodeChars, List.flatMap_cons]
    | stray b hb _ ih =>
        rw [chars_stray (front_eq_stray_iff.mpr hb), ih, encodeChars, encodeChars,
          List.flatMap_cons]
  · rintro rfl
    induction hn : s.length using Nat.strong_induction_on generalizing s with
    | _ n ih =>
        cases s with
        | nil => simpa [chars, encodeChars] using Repaired.nil
        | cons a s =>
            rcases decode_cases a s with ⟨c, tl, more, rfl, hc⟩ | hstray
            · have hlt : more.length < n := by
                rw [← hn, List.length_cons, List.length_append]
                omega
              rw [← List.cons_append, ← hc, chars_scalar, encodeChars, List.flatMap_cons]
              exact .scalar c (ih _ hlt rfl)
            · rw [chars_stray hstray, encodeChars, List.flatMap_cons]
              exact .stray a (front_eq_stray_iff.mp hstray) (ih _ (by rw [← hn]; simp) rfl)

end ComponentCompiler.Utf8

namespace ComponentCompiler.Script

/-! ## What quoting writes -/

/-- A character that is neither a control character nor one of the two Unicode line separators. -/
def NoControl (c : Char) : Prop :=
  0x20 ≤ c.toNat ∧ c.toNat ≠ 0x7f ∧ c.toNat ≠ 0x2028 ∧ c.toNat ≠ 0x2029

instance (c : Char) : Decidable (NoControl c) := inferInstanceAs (Decidable (_ ∧ _))

/-- A text without control characters and line separators. -/
def IsVisible (s : Bytes) : Prop := ∃ cs, s = Utf8.encodeChars cs ∧ ∀ c ∈ cs, NoControl c

theorem IsVisible.append {s t : Bytes} (hs : IsVisible s) (ht : IsVisible t) :
    IsVisible (s ++ t) := by
  obtain ⟨cs, rfl, hcs⟩ := hs
  obtain ⟨ds, rfl, hds⟩ := ht
  exact ⟨cs ++ ds, List.flatMap_append.symm, List.forall_mem_append.mpr ⟨hcs, hds⟩⟩

theorem isVisible_hex (width n : Nat) : IsVisible (Bytes.hex width n) := by
  have hdigit :
      ∀ d < 16, String.utf8EncodeChar (hexChar d) = [Bytes.hexDigit d] ∧ NoControl (hexChar d) := by
    decide
  induction width generalizing n with
  | zero => exact ⟨[], rfl, by simp⟩
  | succ width ih =>
      obtain ⟨hbytes, hchar⟩ := hdigit (n % 16) (Nat.mod_lt n (by omega))
      refine (ih (n / 16)).append ⟨[hexChar (n % 16)], ?_, by simpa using hchar⟩
      simp [Utf8.encodeChars, hbytes]

theorem isVisible_escapeChar (c : Char) : IsVisible (escapeChar c) := by
  have hpair : ∀ d : Char, NoControl d → IsVisible (Utf8.encodeChars [Char.ofNat 0x5c, d]) :=
    fun d hd =>
    ⟨_, rfl, by simpa using ⟨by decide, hd⟩⟩
  unfold escapeChar
  simp only
  split
  · exact hpair (Char.ofNat 0x22) (by decide)
  split
  · exact hpair (Char.ofNat 0x5c) (by decide)
  split
  · exact hpair (Char.ofNat 0x6e) (by decide)
  split
  · exact hpair (Char.ofNat 0x72) (by decide)
  split
  · exact hpair (Char.ofNat 0x74) (by decide)
  split
  · exact hpair (Char.ofNat 0x62) (by decide)
  split
  · exact hpair (Char.ofNat 0x66) (by decide)
  split
  · exact hpair (Char.ofNat 0x76) (by decide)
  split
  · exact (hpair (Char.ofNat 0x75) (by decide)).append (isVisible_hex 4 c.toNat)
  · rename_i hescape
    exact ⟨[c], by simp [Utf8.encodeChars], by
      simp only [List.mem_singleton, forall_eq, NoControl]; omega⟩

theorem isVisible_quote (s : Bytes) : IsVisible (quote s) := by
  have hquote : IsVisible [Ascii.quote] :=
    ⟨[Char.ofNat 0x22], by decide, List.forall_mem_singleton.mpr (by decide)⟩
  refine (hquote.append ?_).append hquote
  induction Utf8.chars s with
  | nil => exact ⟨[], rfl, by simp⟩
  | cons c cs ih =>
      rw [List.flatMap_cons]
      exact (isVisible_escapeChar c).append ih

theorem IsVisible.newline_not_mem {s : Bytes} (h : IsVisible s) : Ascii.newline ∉ s := by
  obtain ⟨cs, rfl, hcs⟩ := h
  intro hmem
  obtain ⟨c, hc, hmem⟩ := List.mem_flatMap.mp hmem
  have hnewline : Ascii.newline.toNat = 10 := rfl
  rcases Utf8.utf8EncodeChar_cases c with ⟨hlow, hbytes⟩ | ⟨-, hbytes⟩
  · have hcontrol := (hcs c hc).1
    rw [hbytes, List.mem_singleton] at hmem
    rw [hmem, Utf8.toNat_ofNat (by omega)] at hnewline
    omega
  · have hhigh := hbytes _ hmem
    omega

/-- The bytes of the text that a string literal denotes. -/
def literalBytes? (s : Bytes) : Option Bytes := (literalValue? s).map Utf8.encodeChars

theorem literalBytes?_quote (s : Bytes) :
    literalBytes? (quote s) = some (Utf8.encodeChars (Utf8.chars s)) := by
  rw [literalBytes?, literalValue?_quote, Option.map_some]

/-- Quoting round-trips. The literal denotes the byte string with each invalid byte replaced, so it
denotes a valid byte string itself, and valid byte strings have different literals. The literal is
valid text without control characters and without line separators. -/
theorem quote_round_trip (s : Bytes) :
    (∃ s', literalBytes? (quote s) = some s' ∧ ∀ r, Utf8.Repaired s r ↔ r = s') ∧
    (Utf8.IsText s → literalBytes? (quote s) = some s) ∧
    (∀ t, Utf8.IsText s → Utf8.IsText t → quote s = quote t → s = t) ∧
    Utf8.IsText (quote s) ∧
    ∀ cs, quote s = Utf8.encodeChars cs → ∀ c ∈ cs,
      0x20 ≤ c.toNat ∧ c.toNat ≠ 0x7f ∧ c.toNat ≠ 0x2028 ∧ c.toNat ≠ 0x2029 := by
  obtain ⟨ds, hds, hvisible⟩ := isVisible_quote s
  refine ⟨⟨_, literalBytes?_quote s, fun r => Utf8.repaired_iff⟩, fun htext => ?_,
    fun t hs ht heq => ?_,
    ⟨ds, hds⟩, fun cs hcs => ?_⟩
  · rw [literalBytes?_quote, Utf8.encodeChars_chars (Utf8.isValid_iff.mpr htext)]
  · exact quote_inj (Utf8.isValid_iff.mpr hs) (Utf8.isValid_iff.mpr ht) heq
  · have hsame : cs = ds := by
      rw [← Utf8.chars_encodeChars cs, ← hcs, hds, Utf8.chars_encodeChars]
    rw [hsame]
    exact hvisible

/-- A quote and a line separator with a byte behind them that is no text, and two texts. -/
theorem quote_round_trip_separator :
    quote (Bytes.lit "\"\u2028" ++ [0xff]) = Bytes.lit "\"\\\"\\u2028\ufffd\"" ∧
    (∃ s', literalBytes? (quote (Bytes.lit "\"\u2028" ++ [0xff])) = some s' ∧
      Utf8.Repaired (Bytes.lit "\"\u2028" ++ [0xff]) s') ∧
    Utf8.IsText (Bytes.lit "\u2028") ∧ Utf8.IsText (Bytes.lit "\\u2028") ∧
    literalBytes? (quote (Bytes.lit "\u2028")) = some (Bytes.lit "\u2028") ∧
    quote (Bytes.lit "\u2028") ≠ quote (Bytes.lit "\\u2028") := by
  have hseparator : Utf8.IsText (Bytes.lit "\u2028") := ⟨['\u2028'], by decide⟩
  have hescape : Utf8.IsText (Bytes.lit "\\u2028") := ⟨['\\', 'u', '2', '0', '2', '8'], by decide⟩
  obtain ⟨s', hdenotes, hrepaired⟩ := (quote_round_trip (Bytes.lit "\"\u2028" ++ [0xff])).1
  obtain ⟨_, htext, hinj, _⟩ := quote_round_trip (Bytes.lit "\u2028")
  exact ⟨by decide +kernel, ⟨s', hdenotes, (hrepaired s').mpr rfl⟩, hseparator, hescape,
    htext hseparator,
    fun heq => absurd (hinj _ hseparator hescape heq) (by decide)⟩

end ComponentCompiler.Script
