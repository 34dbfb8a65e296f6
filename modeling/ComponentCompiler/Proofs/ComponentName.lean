import ComponentCompiler.Proofs.AsciiCase
import ComponentCompiler.Proofs.OutputPath
import Mathlib

/-!
# Names of components

A component is named after the stem of its path: what stands between the last slash that something
follows and the last dot behind it. Only the first byte of the stem is put in upper case, so a stem
that is an identifier gives a name exactly if its first character is a byte of its own. With any
other first letter the name begins with the replacement character, which is no letter, and the path
is refused.
-/

namespace ComponentCompiler.Component

open Script (isIdentifier isIdentifierStart isIdentifierPart)
open Text (asciiRune upperByte)

/-! ## Stems -/

/-- What may follow a stem: nothing, or the last dot of a file name and what is behind it. -/
def IsEnding (ending : Bytes) : Prop :=
  ending = [] ∨ ∃ ext, ending = Ascii.dot :: ext ∧ Ascii.dot ∉ ext ∧ Ascii.slash ∉ ext

/-- Where a stem stands in a path: behind a slash, if anything is in front of it, and in front of an
ending and of slashes. -/
def HasStem (path s : Bytes) : Prop :=
  ∃ front ending slashes, path = front ++ (s ++ ending) ++ slashes ∧
    (front = [] ∨ ∃ dir, front = dir ++ [Ascii.slash]) ∧ IsEnding ending ∧
      ∀ b ∈ slashes, b = Ascii.slash

theorem IsEnding.slash_not_mem {ending : Bytes} (h : IsEnding ending) : Ascii.slash ∉ ending := by
  rcases h with rfl | ⟨ext, rfl, -, hslash⟩
  · exact List.not_mem_nil
  · exact List.not_mem_cons_of_ne_of_not_mem (by decide) hslash

theorem stem_of_hasStem {path s : Bytes} (hs : isIdentifier s) (h : HasStem path s) :
    stem path = s := by
  obtain ⟨front, ending, slashes, rfl, hfront, hending, hslashes⟩ := h
  have hproper : Path.IsProper (s ++ ending) := isProper_outputName hs hending.slash_not_mem
  have hbase : Path.base (front ++ (s ++ ending) ++ slashes) = s ++ ending := by
    rw [Path.base_append_slashes (by simp [hproper.ne_nil]) hslashes]
    rcases hfront with rfl | ⟨dir, rfl⟩
    · exact Path.base_of_isProper hproper
    · rw [List.append_assoc, List.singleton_append, Path.base_append hproper]
  rw [stem, hbase]
  rcases hending with rfl | ⟨ext, rfl, hdot, -⟩
  · rw [List.append_nil] at hproper ⊢
    exact Path.dropEnding_extension_of_not_mem hproper.slash
      (Script.not_mem_of_isIdentifier (by decide) hs)
  · exact Path.dropEnding_extension_append hproper.slash hdot

theorem exists_ending {base : Bytes} (hslash : Ascii.slash ∉ base) :
    ∃ ending, base = base.dropEnding (Path.extension base) ++ ending ∧ IsEnding ending := by
  by_cases hdot : Ascii.dot ∈ base
  · obtain ⟨front, ext, rfl, hext⟩ := Bytes.exists_last_split hdot
    refine ⟨Ascii.dot :: ext, ?_, .inr ⟨ext, rfl, hext, fun hmem => hslash (by simp [hmem])⟩⟩
    rw [Path.dropEnding_extension_append hslash hext]
  · exact ⟨[], by rw [Path.dropEnding_extension_of_not_mem hslash hdot, List.append_nil], .inl rfl⟩

theorem isIdentifier_nil : isIdentifier [] = false := by
  rw [isIdentifier, Utf8.chars, Utf8.decode_nil]
  rfl

theorem hasStem_stem {path : Bytes} (hs : isIdentifier (stem path)) : HasStem path (stem path) := by
  rcases Path.base_cases path with hbase | hbase | ⟨front, slashes, hpath, hslash, hfront, hslashes⟩
  · -- the empty path stands for the directory itself, which has no stem
    rw [stem, hbase] at hs
    exact absurd hs (by decide +kernel)
  · rw [stem, hbase] at hs
    exact absurd hs (by decide +kernel)
  · obtain ⟨ending, hbase, hending⟩ := exists_ending hslash
    exact ⟨front, ending, slashes, by rw [stem, ← hbase]; exact hpath, hfront, hending, hslashes⟩

theorem hasStem_iff {path s : Bytes} (hs : isIdentifier s) : HasStem path s ↔ stem path = s := by
  refine ⟨stem_of_hasStem hs, ?_⟩
  rintro rfl
  exact hasStem_stem hs

/-! ## First letters -/

theorem isIdentifier_ascii_cons {b : UInt8} (hb : b < 0x80) (rest : Bytes) :
    isIdentifier (b :: rest) =
      (isIdentifierStart (asciiRune b).toChar && (Utf8.chars rest).all isIdentifierPart) := by
  rw [isIdentifier, Utf8.chars, Text.decode_ascii_cons hb]
  rfl

theorem upperFirst_ascii {b : UInt8} (hb : b < 0x80) (rest : Bytes) :
    upperFirst (b :: rest) = upperByte b :: rest := by
  rw [upperFirst, if_pos hb, upperByte]
  simp [Ascii.isLower]

theorem isIdentifier_upperFirst_ascii {b : UInt8} (hb : b < 0x80) (rest : Bytes) :
    isIdentifier (upperFirst (b :: rest)) = isIdentifier (b :: rest) := by
  obtain ⟨hupper, hstart⟩ := Text.ascii_upperByte hb
  rw [upperFirst_ascii hb, isIdentifier_ascii_cons hupper, isIdentifier_ascii_cons hb, hstart]

theorem isIdentifierStart_replacement : isIdentifierStart Rune.replacement = false := by
  decide +kernel

theorem isIdentifier_upperFirst_of_le {b : UInt8} (hb : ¬b < 0x80) (rest : Bytes) :
    isIdentifier (upperFirst (b :: rest)) = false := by
  have hbytes : String.utf8EncodeChar Rune.replacement = 0xef :: [0xbf, 0xbd] := by decide
  have hcode : Utf8.encodeCode 0xfffd = 0xef :: [0xbf, 0xbd] := by decide
  -- the first byte is turned into the replacement character, which is no letter
  rw [upperFirst, if_neg hb, hcode, isIdentifier, Utf8.chars, List.cons_append,
    Utf8.decode_scalar hbytes]
  simp [Rune.toChar, isIdentifierStart_replacement]

theorem exists_initial {s : Bytes} (hs : isIdentifier s) :
    ∃ (initial : Char) (rest : Bytes), s = String.utf8EncodeChar initial ++ rest := by
  cases s with
  | nil =>
      rw [isIdentifier_nil] at hs
      cases hs
  | cons a rest =>
      rcases Utf8.decode_cases a rest with ⟨c, tl, rest', rfl, hc⟩ | hstray
      · exact ⟨c, rest', by rw [hc, List.cons_append]⟩
      · rw [isIdentifier, Utf8.chars, Utf8.decode_stray hstray] at hs
        simp [Rune.toChar, isIdentifierStart_replacement] at hs

/-- The first byte of a character tells whether it is the only one. -/
theorem first_byte_cases (c : Char) :
    (c.toNat < 0x80 ∧ ∃ b < 0x80, String.utf8EncodeChar c = [b] ∧ Rune.scalar c = asciiRune b) ∨
      (¬c.toNat < 0x80 ∧ ∃ b tl, ¬b < 0x80 ∧ String.utf8EncodeChar c = b :: tl) := by
  rcases Utf8.utf8EncodeChar_cases c with ⟨hlow, hbytes⟩ | ⟨hhigh, hbytes⟩
  · have hbyte : (UInt8.ofNat c.toNat).toNat = c.toNat := Utf8.toNat_ofNat (by omega)
    refine .inl ⟨hlow, UInt8.ofNat c.toNat, ?_, hbytes, ?_⟩
    · rwa [UInt8.lt_iff_toNat_lt, hbyte]
    · rw [asciiRune, hbyte, Char.ofNat_toNat]
  · refine .inr ⟨by omega, ?_⟩
    cases hc : String.utf8EncodeChar c with
    | nil => exact absurd hc String.utf8EncodeChar_ne_nil
    | cons b tl =>
        have hb := hbytes b (by rw [hc]; exact List.mem_cons_self)
        refine ⟨b, tl, ?_, rfl⟩
        rw [UInt8.lt_iff_toNat_lt, Nat.not_lt]
        exact hb

/-! ## Names -/

theorem componentName_eq_ok_iff {path name : Bytes} :
    componentName path = .ok name ↔ isIdentifier (upperFirst (stem path)) ∧
      name = upperFirst (stem path) := by
  unfold componentName
  dsimp only
  split
  · rename_i hname
    simp [hname, eq_comm]
  · rename_i hname
    simp [hname]

theorem componentName_ascii {path : Bytes} {b : UInt8} {rest : Bytes}
    (hstem : stem path = b :: rest) (hs : isIdentifier (b :: rest)) (hb : b < 0x80) :
    isIdentifier (upperByte b :: rest) ∧ ∀ name, componentName path = .ok name ↔
      name = upperByte b :: rest := by
  have hident := isIdentifier_upperFirst_ascii hb rest
  rw [upperFirst_ascii hb, hs] at hident
  refine ⟨hident, fun name => ?_⟩
  rw [componentName_eq_ok_iff, hstem, upperFirst_ascii hb, hident]
  exact and_iff_right rfl

theorem componentName_ne_ok {path : Bytes} {b : UInt8} {rest : Bytes}
    (hstem : stem path = b :: rest) (hb : ¬b < 0x80) (name : Bytes) :
    componentName path ≠ .ok name := by
  rw [Ne, componentName_eq_ok_iff, hstem, isIdentifier_upperFirst_of_le hb]
  rintro ⟨⟨⟩, -⟩

/-- The stem of a path, if it is an identifier, is found where the path says. It gives a component
name exactly if its first letter is an ASCII character. That name is an identifier and differs from
the stem only in that letter, which is in upper case. -/
theorem componentName_of_isIdentifier_iff {path : Bytes} (h : isIdentifier (stem path)) :
    (∀ s, isIdentifier s → (HasStem path s ↔ stem path = s)) ∧
    ∃ (initial : Char) (rest : Bytes), stem path = String.utf8EncodeChar initial ++ rest ∧
      ((∃ name, componentName path = .ok name) ↔ initial.toNat < 0x80) ∧
      ∀ name, componentName path = .ok name →
        isIdentifier name ∧ name = Text.upperRune (.scalar initial) ++ rest := by
  obtain ⟨initial, rest, hstem⟩ := exists_initial h
  refine ⟨fun s => hasStem_iff, initial, rest, hstem, ?_⟩
  rw [hstem] at h
  rcases first_byte_cases initial with ⟨hlow, b, hb, hbytes, hrune⟩ | ⟨hhigh, b, tl, hb, hbytes⟩
  · rw [hbytes, List.singleton_append] at h hstem
    obtain ⟨hident, hname⟩ := componentName_ascii hstem h hb
    refine ⟨⟨fun _ => hlow, fun _ => ⟨_, (hname _).mpr rfl⟩⟩, fun name hok => ?_⟩
    rw [(hname name).mp hok, hrune, Text.upperRune_asciiRune hb]
    exact ⟨hident, rfl⟩
  · rw [hbytes, List.cons_append] at hstem
    have hnone := componentName_ne_ok hstem hb
    exact ⟨⟨fun ⟨name, hok⟩ => absurd hok (hnone name), fun hlow => absurd hlow hhigh⟩,
      fun name hok => absurd hok (hnone name)⟩

/-- A directory with a dot, a letter that is not ASCII behind the first one, and a
slash at the end. -/
def dottedPath : Bytes := Bytes.lit "a.b/na\u00efve.vc/"

theorem componentName_dottedPath :
    isIdentifier (stem dottedPath) ∧ HasStem dottedPath (Bytes.lit "na\u00efve") ∧
    componentName dottedPath = .ok (Bytes.lit "Na\u00efve") ∧
      isIdentifier (Bytes.lit "Na\u00efve") := by
  have hstem : stem dottedPath = Bytes.lit "na\u00efve" := by decide +kernel
  have hident : isIdentifier (stem dottedPath) := by decide +kernel
  have hok : componentName dottedPath = .ok (Bytes.lit "Na\u00efve") :=
    componentName_eq_ok_iff.mpr (by decide +kernel)
  obtain ⟨hplace, _, _, _, _, hname⟩ := componentName_of_isIdentifier_iff hident
  exact ⟨hident, (hplace _ (hstem ▸ hident)).mpr hstem, hok, (hname _ hok).1⟩

/-- A stem that is an identifier gives no name if it begins with an accented letter. -/
theorem componentName_refuses_accented :
    isIdentifier (stem (Bytes.lit "\u00e9t\u00e9.vc")) ∧
    ¬∃ name, componentName (Bytes.lit "\u00e9t\u00e9.vc") = .ok name := by
  have hstem : stem (Bytes.lit "\u00e9t\u00e9.vc") = 0xc3 :: (0xa9 :: Bytes.lit "t\u00e9") := by
    decide +kernel
  exact ⟨by decide +kernel, fun ⟨name, hok⟩ => componentName_ne_ok hstem (by decide) name hok⟩

end ComponentCompiler.Component
