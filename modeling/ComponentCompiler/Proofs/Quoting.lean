import ComponentCompiler.Proofs.Lexeme
import ComponentCompiler.Proofs.LiteralValue
import ComponentCompiler.Script.Identifier

/-!
# Quoted texts and identifiers, byte by byte

A quoted text is a string that is closed by its last byte and by none before it. An identifier
consists of the bytes that the scanner takes for identifiers. So both are found again in front of
any text: what follows a quoted text is free, and what follows an identifier only has to begin with
another byte.
-/

namespace ComponentCompiler.Utf8

/-- A character below 128 is its own byte, and the bytes of any other one are at least 128. -/
theorem utf8EncodeChar_cases (c : Char) :
    (c.toNat < 128 ∧ String.utf8EncodeChar c = [UInt8.ofNat c.toNat]) ∨
      (128 ≤ c.toNat ∧ ∀ b ∈ String.utf8EncodeChar c, 128 ≤ b.toNat) := by
  have hbytes := bytes_scalar (show c.toNat.isValidChar from c.valid)
  rw [Char.ofNat_toNat, show (Rune.scalar c).bytes = String.utf8EncodeChar c from rfl] at hbytes
  by_cases hc : c.toNat < 128
  · left
    rw [if_pos (by omega)] at hbytes
    exact ⟨hc, hbytes⟩
  · right
    rw [if_neg (by omega)] at hbytes
    have hbyte : ∀ m, 128 ≤ m → m < 256 → 128 ≤ (UInt8.ofNat m).toNat := by
      intro m hlo hhi
      rw [toNat_ofNat hhi]
      exact hlo
    refine ⟨by omega, ?_⟩
    intro b hb
    rw [hbytes] at hb
    split at hb
    · simp only [List.mem_cons, List.not_mem_nil, or_false] at hb
      rcases hb with rfl | rfl
      · exact hbyte _ (by omega) (by omega)
      · exact hbyte _ (by omega) (by omega)
    · split at hb
      · simp only [List.mem_cons, List.not_mem_nil, or_false] at hb
        rcases hb with rfl | rfl | rfl
        · exact hbyte _ (by omega) (by omega)
        · exact hbyte _ (by omega) (by omega)
        · exact hbyte _ (by omega) (by omega)
      · simp only [List.mem_cons, List.not_mem_nil, or_false] at hb
        rcases hb with rfl | rfl | rfl | rfl
        · exact hbyte _ (by omega) (by omega)
        · exact hbyte _ (by omega) (by omega)
        · exact hbyte _ (by omega) (by omega)
        · exact hbyte _ (by omega) (by omega)

/-- Nothing is lost by reading the characters of valid text. -/
theorem encodeChars_chars {s : Bytes} (h : isValid s) : encodeChars (chars s) = s := by
  have hrune : ∀ r ∈ decode s, String.utf8EncodeChar r.toChar = r.bytes := by
    intro r hr
    have hscalar := List.all_eq_true.mp h r hr
    cases r with
    | scalar c => rfl
    | stray b => cases hscalar
  calc encodeChars (chars s)
      = (decode s).flatMap fun r => String.utf8EncodeChar r.toChar := by
        rw [encodeChars, chars, List.flatMap_map]
    _ = (decode s).flatMap Rune.bytes := List.flatMap_congr hrune
    _ = s := encode_decode s

end ComponentCompiler.Utf8

namespace ComponentCompiler.Script

/-! ## Closed strings -/

theorem stringRest_of_closed {q : UInt8} (hq : q ≠ Ascii.newline) {tl : Bytes}
    (h : stringClosed q tl) (r : Bytes) : stringRest q (tl ++ r) = tl.length := by
  induction tl using shorter_induction with
  | nil => cases h
  | cons c tl ih =>
      rw [stringClosed_cons] at h
      rw [List.cons_append, stringRest_cons hq, List.length_cons]
      by_cases hslash : c = Ascii.backslash
      · rw [if_pos hslash] at h ⊢
        cases tl with
        | nil => cases h
        | cons d tl =>
            have hrec := ih tl (by simp) h
            simp only [List.cons_append, List.drop_succ_cons, List.drop_zero, List.take_succ_cons,
              List.take_zero, List.length_cons, List.length_nil, hrec]
            omega
      · rw [if_neg hslash] at h ⊢
        by_cases hquote : c = q
        · rw [if_pos hquote] at h ⊢
          rw [List.isEmpty_iff.mp h, List.length_nil]
        · rw [if_neg hquote] at h ⊢
          by_cases hline : c = Ascii.newline
          · rw [if_pos hline] at h
            cases h
          · rw [if_neg hline] at h ⊢
            rw [ih tl (Nat.le_refl _) h, Nat.add_comm]

/-- Closed strings are found again in front of any text. -/
theorem append_inj_of_closed {q : UInt8} (hq : q ≠ Ascii.newline) {x y r s : Bytes}
    (hx : stringClosed q x) (hy : stringClosed q y) (h : x ++ r = y ++ s) : x = y ∧ r = s := by
  have hlength : x.length = y.length := by
    rw [← stringRest_of_closed hq hx r, h, stringRest_of_closed hq hy s]
  exact List.append_inj h hlength

theorem stringClosed_plain {b : UInt8} (hslash : b ≠ Ascii.backslash) (hquote : b ≠ Ascii.quote)
    (hline : b ≠ Ascii.newline) (s : Bytes) :
    stringClosed Ascii.quote (b :: s) = stringClosed Ascii.quote s := by
  rw [stringClosed_cons, if_neg hslash, if_neg hquote, if_neg hline]

theorem stringClosed_escape (b : UInt8) (s : Bytes) :
    stringClosed Ascii.quote (Ascii.backslash :: b :: s) = stringClosed Ascii.quote s := by
  rw [stringClosed_cons, if_pos rfl, List.drop_succ_cons, List.drop_zero]

theorem hexDigit_plain : ∀ d < 16, Bytes.hexDigit d ≠ Ascii.backslash ∧
    Bytes.hexDigit d ≠ Ascii.quote ∧ Bytes.hexDigit d ≠ Ascii.newline := by decide

theorem stringClosed_hex (width n : Nat) (s : Bytes) :
    stringClosed Ascii.quote (Bytes.hex width n ++ s) = stringClosed Ascii.quote s := by
  induction width generalizing n s with
  | zero => rfl
  | succ width ih =>
      obtain ⟨hslash, hquote, hline⟩ := hexDigit_plain (n % 16) (Nat.mod_lt n (by omega))
      rw [Bytes.hex, List.append_assoc, ih, List.singleton_append,
        stringClosed_plain hslash hquote hline]

/-- The bytes of a longer character are above those that matter. -/
theorem stringClosed_high {bytes : Bytes} (hbytes : ∀ b ∈ bytes, 128 ≤ b.toNat) (s : Bytes) :
    stringClosed Ascii.quote (bytes ++ s) = stringClosed Ascii.quote s := by
  induction bytes with
  | nil => rfl
  | cons b bytes ih =>
      have hb : 128 ≤ b.toNat := hbytes b List.mem_cons_self
      have hne : ∀ a : UInt8, a.toNat < 128 → b ≠ a := by
        rintro a ha rfl
        omega
      rw [List.cons_append,
        stringClosed_plain (hne _ (by decide)) (hne _ (by decide)) (hne _ (by decide))]
      exact ih fun b' hb' => hbytes b' (List.mem_cons_of_mem b hb')

/-- A character in a quoted text neither closes it nor breaks the line. -/
theorem stringClosed_escapeChar (c : Char) (s : Bytes) :
    stringClosed Ascii.quote (escapeChar c ++ s) = stringClosed Ascii.quote s := by
  have hpair : ∀ (text : String) (b : UInt8), Bytes.lit text = [Ascii.backslash, b] →
      stringClosed Ascii.quote (Bytes.lit text ++ s) = stringClosed Ascii.quote s := by
    intro text b htext
    rw [htext]
    exact stringClosed_escape b s
  unfold escapeChar
  simp only
  split
  · exact hpair _ 0x22 (by decide)
  split
  · exact hpair _ 0x5c (by decide)
  split
  · exact hpair _ 0x6e (by decide)
  split
  · exact hpair _ 0x72 (by decide)
  split
  · exact hpair _ 0x74 (by decide)
  split
  · exact hpair _ 0x62 (by decide)
  split
  · exact hpair _ 0x66 (by decide)
  split
  · exact hpair _ 0x76 (by decide)
  split
  · have hu : Bytes.lit "\\u" = [Ascii.backslash, 0x75] := by decide
    rw [hu, List.append_assoc, List.cons_append, List.cons_append, List.nil_append,
      stringClosed_escape, stringClosed_hex]
  · rename_i hquote hslash hline _ _ _ _ _ _
    rcases Utf8.utf8EncodeChar_cases c with ⟨hc, hbytes⟩ | ⟨_, hbytes⟩
    · have hne : ∀ m, m < 128 → c.toNat ≠ m → UInt8.ofNat c.toNat ≠ UInt8.ofNat m := by
        intro m hm hcm heq
        have hnat := congrArg UInt8.toNat heq
        rw [Utf8.toNat_ofNat (by omega), Utf8.toNat_ofNat (by omega)] at hnat
        exact hcm hnat
      rw [hbytes, List.singleton_append]
      exact stringClosed_plain (hne 0x5c (by omega) hslash) (hne 0x22 (by omega) hquote)
        (hne 0x0a (by omega) hline) s
    · exact stringClosed_high hbytes s

theorem exists_quote_eq (s : Bytes) :
    ∃ tl, quote s = Ascii.quote :: tl ∧ stringClosed Ascii.quote tl := by
  refine ⟨(Utf8.chars s).flatMap escapeChar ++ [Ascii.quote], ?_, ?_⟩
  · rw [quote, List.append_assoc, List.singleton_append]
  · induction Utf8.chars s with
    | nil => rfl
    | cons c cs ih => rwa [List.flatMap_cons, List.append_assoc, stringClosed_escapeChar]

/-- A quoted text is found again in front of any text. -/
theorem quote_append_inj {s t r r' : Bytes} (h : quote s ++ r = quote t ++ r') :
    quote s = quote t ∧ r = r' := by
  obtain ⟨x, hx, hxclosed⟩ := exists_quote_eq s
  obtain ⟨y, hy, hyclosed⟩ := exists_quote_eq t
  rw [hx, hy, List.cons_append, List.cons_append] at h
  obtain ⟨rfl, rfl⟩ := append_inj_of_closed (by decide) hxclosed hyclosed (List.cons.inj h).2
  exact ⟨by rw [hx, hy], rfl⟩

theorem quote_inj {s t : Bytes} (hs : Utf8.isValid s) (ht : Utf8.isValid t)
    (h : quote s = quote t) :
    s = t := by
  have hchars : Utf8.chars s = Utf8.chars t := by
    have hvalue := literalValue?_quote s
    rw [h, literalValue?_quote] at hvalue
    exact (Option.some.inj hvalue).symm
  calc s = Utf8.encodeChars (Utf8.chars s) := (Utf8.encodeChars_chars hs).symm
    _ = Utf8.encodeChars (Utf8.chars t) := by rw [hchars]
    _ = t := Utf8.encodeChars_chars ht

/-! ## Names -/

/-- A run of identifier bytes that does not begin with a digit. -/
def isName : Bytes → Bool
  | [] => false
  | b :: tl => isIdentByte b && !Ascii.isDigit b && tl.all isIdentByte

theorem isIdentByte_of_isName {s : Bytes} (h : isName s) : ∀ b ∈ s, isIdentByte b := by
  cases s with
  | nil => cases h
  | cons b tl =>
      simp only [isName, Bool.and_eq_true, List.all_eq_true] at h
      intro c hc
      rcases List.mem_cons.mp hc with rfl | hc
      · exact h.1.1
      · exact h.2 c hc

theorem isIdentByte_ascii : ∀ n < 128, isIdentifierPart (Char.ofNat n) →
    isIdentByte (UInt8.ofNat n) := by decide +kernel

theorem isDigit_ascii : ∀ n < 128, isIdentifierStart (Char.ofNat n) →
    Ascii.isDigit (UInt8.ofNat n) = false := by decide +kernel

theorem isIdentByte_of_le {b : UInt8} (h : 128 ≤ b.toNat) : isIdentByte b := by
  have hb : (0x80 : UInt8) ≤ b := UInt8.le_iff_toNat_le.mpr h
  simp [isIdentByte, hb]

theorem isDigit_of_le {b : UInt8} (h : 128 ≤ b.toNat) : Ascii.isDigit b = false := by
  have hb : ¬b ≤ (0x39 : UInt8) := by
    rw [UInt8.le_iff_toNat_le]
    simp only [UInt8.reduceToNat]
    omega
  simp [Ascii.isDigit, hb]

theorem isIdentByte_of_isIdentifierPart {c : Char} (h : isIdentifierPart c) :
    ∀ b ∈ String.utf8EncodeChar c, isIdentByte b := by
  intro b hb
  rcases Utf8.utf8EncodeChar_cases c with ⟨hc, hbytes⟩ | ⟨_, hbytes⟩
  · rw [hbytes, List.mem_singleton] at hb
    rw [hb]
    exact isIdentByte_ascii c.toNat hc (by rwa [Char.ofNat_toNat])
  · exact isIdentByte_of_le (hbytes b hb)

theorem isDigit_of_isIdentifierStart {c : Char} (h : isIdentifierStart c) :
    ∀ b ∈ String.utf8EncodeChar c, Ascii.isDigit b = false := by
  intro b hb
  rcases Utf8.utf8EncodeChar_cases c with ⟨hc, hbytes⟩ | ⟨_, hbytes⟩
  · rw [hbytes, List.mem_singleton] at hb
    rw [hb]
    exact isDigit_ascii c.toNat hc (by rwa [Char.ofNat_toNat])
  · exact isDigit_of_le (hbytes b hb)

/-- A rune of an identifier is no stray byte, for the replacement character is no letter. -/
theorem bytes_of_isIdentifierPart {r : Rune} (h : isIdentifierPart r.toChar) :
    r.bytes = String.utf8EncodeChar r.toChar := by
  cases r with
  | scalar c => rfl
  | stray b =>
      have hreplacement : isIdentifierPart Rune.replacement = false := by decide +kernel
      rw [show (Rune.stray b).toChar = Rune.replacement from rfl, hreplacement] at h
      cases h

theorem isName_of_isIdentifier {s : Bytes} (h : isIdentifier s) : isName s := by
  have hs : (Utf8.decode s).flatMap Rune.bytes = s := Utf8.encode_decode s
  rw [isIdentifier, Utf8.chars] at h
  cases hrunes : Utf8.decode s with
  | nil => simp [hrunes] at h
  | cons r rs =>
      rw [hrunes, List.map_cons] at h
      simp only [Bool.and_eq_true, List.all_eq_true] at h
      have hr : isIdentifierPart r.toChar := by simp [isIdentifierPart, h.1]
      have hrest : ∀ b ∈ rs.flatMap Rune.bytes, isIdentByte b := by
        intro b hb
        obtain ⟨r', hr', hb⟩ := List.mem_flatMap.mp hb
        have hpart := h.2 r'.toChar (List.mem_map_of_mem hr')
        rw [bytes_of_isIdentifierPart hpart] at hb
        exact isIdentByte_of_isIdentifierPart hpart b hb
      rw [hrunes, List.flatMap_cons, bytes_of_isIdentifierPart hr] at hs
      have hident := isIdentByte_of_isIdentifierPart hr
      have hdigit := isDigit_of_isIdentifierStart h.1
      cases hbytes : String.utf8EncodeChar r.toChar with
      | nil => exact absurd hbytes String.utf8EncodeChar_ne_nil
      | cons b tl =>
          rw [hbytes] at hident hdigit hs
          rw [← hs, List.cons_append, isName]
          simp only [Bool.and_eq_true, Bool.not_eq_true', List.all_eq_true, List.mem_append]
          refine ⟨⟨hident b List.mem_cons_self, hdigit b List.mem_cons_self⟩, ?_⟩
          rintro c (hc | hc)
          · exact hident c (List.mem_cons_of_mem b hc)
          · exact hrest c hc

theorem not_mem_of_isIdentifier {b : UInt8} (hb : isIdentByte b = false) {s : Bytes}
    (h : isIdentifier s) :
    b ∉ s := by
  intro hmem
  have hbyte := isIdentByte_of_isName (isName_of_isIdentifier h) b hmem
  rw [hb] at hbyte
  cases hbyte

/-- Names are found again in front of a byte that no name holds. -/
theorem append_inj_of_isName {x y r s : Bytes} {a b : UInt8} (hx : isName x) (hy : isName y)
    (ha : isIdentByte a = false) (hb : isIdentByte b = false) (h : x ++ a :: r = y ++ b :: s) :
    x = y ∧ a :: r = b :: s := by
  have hxy : x = y := by
    rw [← Bytes.takeWhile_append_cons (isIdentByte_of_isName hx) ha r, h,
      Bytes.takeWhile_append_cons (isIdentByte_of_isName hy) hb s]
  exact ⟨hxy, List.append_cancel_left (hxy ▸ h)⟩

end ComponentCompiler.Script
