import ComponentCompiler.Proofs.Utf8
import ComponentCompiler.Script.Identifier
import ComponentCompiler.Text.Case.Full
import ComponentCompiler.Text.Case.Simple
import Mathlib

/-!
# The case of plain names

The case mappings are tables of runs of code points, and only the first run of each concerns plain
characters. So on names of plain characters capitalising works byte by byte: it keeps an identifier
an identifier, and it agrees with the fold under which keys are compared.
-/

namespace ComponentCompiler.Text

open Script (isIdentifier isIdentifierStart isIdentifierPart)

def IsAscii (s : Bytes) : Prop := ∀ b ∈ s, b < 0x80

instance (s : Bytes) : Decidable (IsAscii s) := inferInstanceAs (Decidable (∀ b ∈ s, b < 0x80))

def asciiRune (b : UInt8) : Rune := .scalar (Char.ofNat b.toNat)

def upperByte (b : UInt8) : UInt8 := if 0x61 ≤ b ∧ b ≤ 0x7a then b - 0x20 else b

def lowerByte (b : UInt8) : UInt8 := if 0x41 ≤ b ∧ b ≤ 0x5a then b + 0x20 else b

theorem forall_ascii {P : UInt8 → Prop} (h : ∀ n < 128, P (UInt8.ofNat n)) {b : UInt8}
    (hb : b < 0x80) :
    P b := by
  have hP := h b.toNat (UInt8.lt_iff_toNat_lt.mp hb)
  rwa [UInt8.ofNat_toNat] at hP

theorem toNat_ofNat_ascii {b : UInt8} (hb : b < 0x80) : (Char.ofNat b.toNat).toNat = b.toNat := by
  have hlt : b.toNat < 0x80 := UInt8.lt_iff_toNat_lt.mp hb
  have hvalid : b.toNat.isValidChar := .inl (by omega)
  rw [Char.toNat_ofNat, if_pos hvalid]

theorem bytes_asciiRune {b : UInt8} (hb : b < 0x80) : (asciiRune b).bytes = [b] := by
  have hlt : b.toNat < 0x80 := UInt8.lt_iff_toNat_lt.mp hb
  have hcode : (Char.ofNat b.toNat).val.toNat = b.toNat := toNat_ofNat_ascii hb
  rw [asciiRune, Rune.bytes, String.utf8EncodeChar]
  simp only [hcode]
  rw [if_pos (by omega), UInt8.ofNat_toNat]

theorem decode_ascii_cons {b : UInt8} (hb : b < 0x80) (s : Bytes) :
    Utf8.decode (b :: s) = asciiRune b :: Utf8.decode s :=
  Utf8.decode_scalar (bytes_asciiRune hb) s

theorem decode_of_isAscii {s : Bytes} (hs : IsAscii s) : Utf8.decode s = s.map asciiRune := by
  induction s with
  | nil => exact Utf8.decode_nil
  | cons b s ih =>
      obtain ⟨hb, hs⟩ := List.forall_mem_cons.mp hs
      rw [decode_ascii_cons hb, ih hs, List.map_cons]

/-- Of a table whose runs all start behind the plain characters, but for the first one, only that
one counts. -/
theorem mapCode_cons {run : CaseRun} {runs : List CaseRun} (hruns : ∀ r ∈ runs, 0x80 ≤ r.first)
    {n : Nat} (hn : n < 0x80) :
    mapCode (run :: runs) n = if run.covers n then (n + run.shift).toNat else n := by
  have hnone : runs.find? (·.covers n) = none := by
    rw [List.find?_eq_none]
    intro r hr
    have hfirst := hruns r hr
    simp only [CaseRun.covers, Bool.and_eq_true, decide_eq_true_eq]
    omega
  rw [mapCode, List.find?_cons]
  cases run.covers n with
  | true => rfl
  | false => simp [hnone]

theorem lookup_upperSpecials {n : Nat} (hn : n < 0x80) : upperSpecials.lookup n = none := by
  have hspecials : ∀ x ∈ upperSpecials, 0x80 ≤ x.1 := by decide
  rw [List.lookup_eq_none_iff]
  intro x hx
  have hfirst := hspecials x hx
  simp only [bne_iff_ne, ne_eq]
  omega

theorem upperRune_asciiRune {b : UInt8} (hb : b < 0x80) :
    upperRune (asciiRune b) = [upperByte b] := by
  have hlt : b.toNat < 0x80 := UInt8.lt_iff_toNat_lt.mp hb
  have hruns : ∀ r ∈ upperRuns.tail, 0x80 ≤ r.first := by decide +kernel
  have hmap : mapCode upperRuns b.toNat = _ := mapCode_cons hruns hlt
  rw [asciiRune, upperRune, toNat_ofNat_ascii hb, fullUpperCode, lookup_upperSpecials hlt, hmap]
  refine forall_ascii (P := fun b => [if CaseRun.covers ⟨0x61, 0x7a, 1, -32⟩ b.toNat then
    (b.toNat + (-32 : Int)).toNat else b.toNat].flatMap Utf8.encodeCode = [upperByte b]) ?_ hb
  decide +kernel

theorem lowerRune_asciiRune {b : UInt8} (hb : b < 0x80) :
    lowerRune (asciiRune b) = [lowerByte b] := by
  have hlt : b.toNat < 0x80 := UInt8.lt_iff_toNat_lt.mp hb
  have hruns : ∀ r ∈ fullLowerRuns.tail, 0x80 ≤ r.first := by decide +kernel
  have hmap : mapCode fullLowerRuns b.toNat = _ := mapCode_cons hruns hlt
  rw [asciiRune, lowerRune, toNat_ofNat_ascii hb, fullLowerCode, if_neg (by omega), hmap]
  refine forall_ascii (P := fun b => [if CaseRun.covers ⟨0x41, 0x5a, 1, 32⟩ b.toNat then
    (b.toNat + (32 : Int)).toNat else b.toNat].flatMap Utf8.encodeCode = [lowerByte b]) ?_ hb
  decide +kernel

theorem isCapitalSigma_asciiRune {b : UInt8} (hb : b < 0x80) :
    isCapitalSigma (asciiRune b) = false := by
  have hlt : b.toNat < 0x80 := UInt8.lt_iff_toNat_lt.mp hb
  rw [asciiRune, isCapitalSigma, toNat_ofNat_ascii hb, beq_eq_false_iff_ne]
  omega

theorem lowerByte_of_not_isCased {b : UInt8} (hb : b < 0x80) (h : isCased (asciiRune b) = false) :
    lowerByte b = b := by
  refine if_neg fun hupper => ?_
  rw [asciiRune, isCased, toNat_ofNat_ascii hb, inRanges, List.any_eq_false] at h
  have hmem : (0x41, 0x5a) ∈ casedRanges := by decide
  exact h _ hmem (by simpa [UInt8.le_iff_toNat_le] using hupper)

theorem lowerRunes_of_isAscii {s : Bytes} (hs : IsAscii s) (inWord : Bool) :
    lowerRunes inWord (s.map asciiRune) = s.map lowerByte := by
  -- where a word begins matters for a sigma only
  induction s generalizing inWord with
  | nil => cases inWord <;> rfl
  | cons b s ih =>
      obtain ⟨hb, hs⟩ := List.forall_mem_cons.mp hs
      have hlower := lowerRune_asciiRune hb
      have hbytes := bytes_asciiRune hb
      rw [List.map_cons, List.map_cons]
      cases inWord with
      | false =>
          rw [lowerRunes]
          split
          · rw [hlower, ih hs, List.singleton_append]
          · rename_i hcased
            rw [hbytes, ih hs, lowerByte_of_not_isCased hb (by simpa using hcased),
              List.singleton_append]
      | true =>
          rw [lowerRunes, isCapitalSigma_asciiRune hb, if_neg (by decide)]
          split
          · rw [hlower, ih hs, List.singleton_append]
          · rename_i hcased
            rw [Bool.not_eq_true, Bool.or_eq_false_iff] at hcased
            rw [hbytes, ih hs, lowerByte_of_not_isCased hb hcased.1, List.singleton_append]

theorem capitalize_of_isAscii {b : UInt8} {s : Bytes} (hs : IsAscii (b :: s)) :
    capitalize (b :: s) = upperByte b :: s.map lowerByte := by
  obtain ⟨hb, hrest⟩ := List.forall_mem_cons.mp hs
  rw [capitalize, decode_of_isAscii hs, List.map_cons]
  dsimp only
  rw [upperRune_asciiRune hb, lowerRunes_of_isAscii hrest, List.singleton_append]

theorem isIdentifier_of_isAscii {b : UInt8} {s : Bytes} (hs : IsAscii (b :: s)) :
    isIdentifier (b :: s) = (isIdentifierStart (asciiRune b).toChar &&
      s.all fun b => isIdentifierPart (asciiRune b).toChar) := by
  rw [isIdentifier, Utf8.chars, decode_of_isAscii hs]
  simp [Function.comp_def]

theorem ascii_upperByte {b : UInt8} (hb : b < 0x80) : upperByte b < 0x80 ∧
    isIdentifierStart (asciiRune (upperByte b)).toChar =
      isIdentifierStart (asciiRune b).toChar := by
  refine forall_ascii (P := fun b => upperByte b < 0x80 ∧
    isIdentifierStart (asciiRune (upperByte b)).toChar =
      isIdentifierStart (asciiRune b).toChar) ?_ hb
  decide +kernel

theorem ascii_lowerByte {b : UInt8} (hb : b < 0x80) : lowerByte b < 0x80 ∧
    isIdentifierPart (asciiRune (lowerByte b)).toChar = isIdentifierPart (asciiRune b).toChar := by
  refine forall_ascii (P := fun b => lowerByte b < 0x80 ∧
    isIdentifierPart (asciiRune (lowerByte b)).toChar = isIdentifierPart (asciiRune b).toChar) ?_ hb
  decide +kernel

/-- Capitalising a plain name makes it no better and no worse. -/
theorem isIdentifier_capitalize {s : Bytes} (hs : IsAscii s) :
    isIdentifier (capitalize s) = isIdentifier s := by
  cases s with
  | nil => rw [capitalize, Utf8.decode_nil]
  | cons b s =>
      obtain ⟨hb, hrest⟩ := List.forall_mem_cons.mp hs
      have hcapital : IsAscii (upperByte b :: s.map lowerByte) := by
        refine List.forall_mem_cons.mpr ⟨(ascii_upperByte hb).1,
          List.forall_mem_map.mpr fun c hc => ?_⟩
        exact (ascii_lowerByte (hrest c hc)).1
      have hparts : (s.all fun c => isIdentifierPart (asciiRune (lowerByte c)).toChar) =
          s.all fun c => isIdentifierPart (asciiRune c).toChar := by
        rw [Bool.eq_iff_iff, List.all_eq_true, List.all_eq_true]
        exact forall₂_congr fun c hc => by rw [(ascii_lowerByte (hrest c hc)).2]
      rw [capitalize_of_isAscii hs, isIdentifier_of_isAscii hcapital, isIdentifier_of_isAscii hs,
        (ascii_upperByte hb).2, List.all_map, ← hparts]
      rfl

/-! ## The fold of keys -/

/-! ## Folding plain names -/

theorem toLower_of_isAscii {s : Bytes} (hs : IsAscii s) : toLower s = Bytes.lowerAscii s := by
  have hbyte : ∀ b ∈ s, Utf8.encodeCode (lowerCode (asciiRune b).code) = [Ascii.toLower b] := by
    intro b hb
    refine forall_ascii
      (P := fun b => Utf8.encodeCode (lowerCode (asciiRune b).code) = [Ascii.toLower b]) ?_
        (hs b hb)
    decide +kernel
  rw [toLower, decode_of_isAscii hs, List.flatMap_map, List.flatMap_congr hbyte,
    ← List.map_eq_flatMap, Bytes.lowerAscii]

theorem toLower_lowerByte (b : UInt8) :
    Ascii.toLower (upperByte b) = Ascii.toLower b ∧
      Ascii.toLower (lowerByte b) = Ascii.toLower b := by
  grind [Ascii.toLower, Ascii.isUpper, upperByte, lowerByte]

theorem toLower_capitalize_of_isAscii {s : Bytes} (hs : IsAscii s) :
    toLower (capitalize s) = Bytes.lowerAscii s := by
  cases s with
  | nil =>
      have hnil : capitalize [] = [] := by rw [capitalize, Utf8.decode_nil]
      rw [hnil, toLower_of_isAscii hs]
  | cons b s =>
      obtain ⟨hb, hrest⟩ := List.forall_mem_cons.mp hs
      have hcapital : IsAscii (upperByte b :: s.map lowerByte) :=
        List.forall_mem_cons.mpr ⟨(ascii_upperByte hb).1,
          List.forall_mem_map.mpr fun c hc => (ascii_lowerByte (hrest c hc)).1⟩
      have htail : s.map (fun c => Ascii.toLower (lowerByte c)) = s.map Ascii.toLower :=
        List.map_congr_left fun c _ => (toLower_lowerByte c).2
      rw [capitalize_of_isAscii hs, toLower_of_isAscii hcapital, Bytes.lowerAscii, List.map_cons,
        (toLower_lowerByte b).1, List.map_map]
      exact congrArg (Ascii.toLower b :: ·) htail

end ComponentCompiler.Text
