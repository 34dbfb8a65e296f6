import ComponentCompiler.Proofs.Utf8
import ComponentCompiler.Script.Literal

/-!
# What a string literal denotes

`literalValue?` reads a string literal of the generated code: a single- or double-quoted string, or
a template literal without substitutions. Characters are handled by their codes, because an escape
may stand for half of a surrogate pair only. Reading what `quote` writes gives the text back.
-/

namespace ComponentCompiler.Script

/-! ## Escapes -/

/-- The value of a hexadecimal digit. -/
def hexCode? (c : Nat) : Option Nat :=
  if 0x30 ≤ c ∧ c ≤ 0x39 then some (c - 0x30)
  else if 0x61 ≤ c ∧ c ≤ 0x66 then some (c - 0x61 + 10)
  else if 0x41 ≤ c ∧ c ≤ 0x46 then some (c - 0x41 + 10)
  else none

/-- The number that the first `width` characters write in hexadecimal. -/
def hexNumber? (width : Nat) (cs : List Nat) : Option Nat :=
  if width ≤ cs.length then
    (cs.take width).foldlM (fun n c => (hexCode? c).map (16 * n + ·)) 0
  else none

/-- The letters that stand for control characters behind a backslash. -/
def letterEscapes : List (Nat × Nat) :=
  [(0x6e, 0x0a), (0x72, 0x0d), (0x74, 0x09), (0x62, 0x08), (0x66, 0x0c), (0x76, 0x0b)]

/-- A line terminator. -/
def isLineEnd (c : Nat) : Bool := c == 0x0a || c == 0x0d || c == 0x2028 || c == 0x2029

/-- What follows `\u`: four digits, or any number of digits in braces. The result is what the escape
stands for and how many characters it takes behind the backslash. -/
def unicodeEscape? (cs : List Nat) : Option (List Nat × Nat) :=
  if cs.head? = some 0x7b then
    let digits := cs.tail.takeWhile (· ≠ 0x7d)
    if digits = [] ∨ digits.length = cs.tail.length then none
    else
      (hexNumber? digits.length digits).bind fun n =>
        if n ≤ 0x10ffff then some ([n], digits.length + 3) else none
  else (hexNumber? 4 cs).map fun n => ([n], 5)

/-- What follows a backslash: what the escape stands for and how many characters it
takes. A backslash before the end of a line continues the literal, and digits are refused
but for a lone zero. -/
def escape? : List Nat → Option (List Nat × Nat)
  | [] => none
  | c :: cs =>
    match letterEscapes.lookup c with
    | some n => some ([n], 1)
    | none =>
      if c = 0x78 then (hexNumber? 2 cs).map fun n => ([n], 3)
      else if c = 0x75 then unicodeEscape? cs
      else if isLineEnd c then some ([], if c = 0x0d ∧ cs.head? = some 0x0a then 2 else 1)
      else if 0x30 ≤ c ∧ c ≤ 0x39 then
        if c = 0x30 ∧ ¬cs.head?.any (fun d => 0x30 ≤ d && d ≤ 0x39) then some ([0], 1) else none
      else some ([c], 1)

/-! ## Literals -/

/-- The body of a literal behind its opening quote `q`, closing quote included. A backquoted one may
hold line breaks, which are read as line feeds, and is refused if it holds a substitution. -/
def literalBody? (q : Nat) : List Nat → Option (List Nat)
  | [] => none
  | c :: cs =>
    if c = q then if cs = [] then some [] else none
    else if c = 0x5c then
      match escape? cs with
      | some (units, k) => (literalBody? q (cs.drop k)).map (units ++ ·)
      | none => none
    else if q = 0x60 then
      if c = 0x24 ∧ cs.head? = some 0x7b then none
      else if c = 0x0d then
        (literalBody? q (cs.drop (if cs.head? = some 0x0a then 1 else 0))).map (0x0a :: ·)
      else (literalBody? q cs).map (c :: ·)
    else if c = 0x0a ∨ c = 0x0d then none
    else (literalBody? q cs).map (c :: ·)
termination_by cs => cs.length
decreasing_by all_goals simp only [List.length_drop, List.length_cons]; omega

/-- The character of a code; half of a surrogate pair alone gives the replacement character. -/
def ofCode (n : Nat) : Char := if n.isValidChar then Char.ofNat n else Rune.replacement

/-- The characters of codes among which a surrogate pair makes one character. -/
def joinPairs : List Nat → List Char
  | [] => []
  | [u] => [ofCode u]
  | u :: v :: units =>
    if (0xd800 ≤ u ∧ u ≤ 0xdbff) ∧ (0xdc00 ≤ v ∧ v ≤ 0xdfff) then
      ofCode (0x10000 + (u - 0xd800) * 0x400 + (v - 0xdc00)) :: joinPairs units
    else ofCode u :: joinPairs (v :: units)

/-- The codes of the characters of a text. -/
def codes (s : Bytes) : List Nat := (Utf8.chars s).map Char.toNat

/-- The text that a string literal denotes, if it is one. -/
def literalValue? (s : Bytes) : Option (List Char) :=
  match codes s with
  | [] => none
  | q :: cs =>
    if q = 0x22 ∨ q = 0x27 ∨ q = 0x60 then (literalBody? q cs).map joinPairs else none

/-! ## Reading what was quoted -/

/-- Characters are no surrogates. -/
theorem joinPairs_toNat (cs : List Char) : joinPairs (cs.map Char.toNat) = cs := by
  have hof : ∀ c : Char, ofCode c.toNat = c := fun c => by
    rw [ofCode, if_pos (show c.toNat.isValidChar from c.valid), Char.ofNat_toNat]
  induction cs with
  | nil => rfl
  | cons c cs ih =>
      cases cs with
      | nil => rw [List.map_cons, List.map_nil, joinPairs, hof]
      | cons d cs =>
          have hc : ¬(0xd800 ≤ c.toNat ∧ c.toNat ≤ 0xdbff) := by
            rintro ⟨hlo, hhi⟩
            rcases c.valid with hlt | ⟨hgt, _⟩
            · exact absurd (show c.toNat < 0xd800 from hlt) (by omega)
            · exact absurd (show 0xdfff < c.toNat from hgt) (by omega)
          rw [List.map_cons, List.map_cons, joinPairs, if_neg fun h => hc h.1, hof, ← List.map_cons,
            ih]

/-- The character of a hexadecimal digit. -/
def hexChar (d : Nat) : Char := Char.ofNat (if d < 10 then 0x30 + d else 0x57 + d)

theorem hexChar_spec : ∀ d < 16, String.utf8EncodeChar (hexChar d) = [Bytes.hexDigit d] ∧
    hexCode? (hexChar d).toNat = some d := by decide

/-- Four hexadecimal digits are read back. -/
theorem hexNumber?_hex {n : Nat} (h : n < 65536) :
    ∃ ds : List Char, Bytes.hex 4 n = Utf8.encodeChars ds ∧ ds.length = 4 ∧
      ∀ rest, hexNumber? 4 (ds.map Char.toNat ++ rest) = some n := by
  have hd : ∀ m, String.utf8EncodeChar (hexChar (m % 16)) = [Bytes.hexDigit (m % 16)] ∧
      hexCode? (hexChar (m % 16)).toNat = some (m % 16) := fun m =>
    hexChar_spec (m % 16) (Nat.mod_lt m (by omega))
  refine ⟨[hexChar (n / 16 / 16 / 16 % 16), hexChar (n / 16 / 16 % 16), hexChar (n / 16 % 16),
    hexChar (n % 16)], ?_, rfl, fun rest => ?_⟩
  · simp [Bytes.hex, Utf8.encodeChars, hd]
  · have hsum :
        16 * (16 * (16 * (n / 16 / 16 / 16 % 16) + n / 16 / 16 % 16) + n / 16 % 16) +
          n % 16 = n := by
      omega
    simp [hexNumber?, hd, hsum]

/-- A brace is no digit. -/
theorem head_ne_of_hexNumber? {width n : Nat} {cs : List Nat} (hwidth : 0 < width)
    (h : hexNumber? width cs = some n) : cs.head? ≠ some 0x7b := by
  intro hhead
  cases cs with
  | nil => cases hhead
  | cons c cs =>
      obtain rfl : c = 0x7b := by simpa using hhead
      obtain ⟨width, rfl⟩ := Nat.exists_eq_succ_of_ne_zero (Nat.ne_of_gt hwidth)
      have hnone : hexCode? 0x7b = none := by decide
      simp [hexNumber?, hnone] at h

theorem literalBody?_escape (cs : List Nat) {rest : List Nat} {m : Nat}
    (h : escape? (cs ++ rest) = some ([m], cs.length)) :
    literalBody? 0x22 (0x5c :: (cs ++ rest)) = (literalBody? 0x22 rest).map (m :: ·) := by
  rw [literalBody?, if_neg (by decide), if_pos rfl, h]
  simp

theorem literalBody?_plain {c : Nat} (hquote : c ≠ 0x22) (hslash : c ≠ 0x5c) (hlf : c ≠ 0x0a)
    (hcr : c ≠ 0x0d) (rest : List Nat) :
    literalBody? 0x22 (c :: rest) = (literalBody? 0x22 rest).map (c :: ·) := by
  rw [literalBody?, if_neg hquote, if_neg hslash, if_neg (by decide), if_neg (by simp [hlf, hcr])]

/-- A character written in a double-quoted literal is read back, whatever follows. -/
def ReadsBack (c : Char) (written : Bytes) : Prop :=
  ∃ cs : List Char, written = Utf8.encodeChars cs ∧
    ∀ rest, literalBody? 0x22 (cs.map Char.toNat ++ rest) =
      (literalBody? 0x22 rest).map (c.toNat :: ·)

/-- A backslash and one more character. -/
theorem ReadsBack.pair {c : Char} {written : Bytes} (d : Char)
    (hwritten : written = Utf8.encodeChars [Char.ofNat 0x5c, d])
    (hescape : ∀ rest, escape? (d.toNat :: rest) = some ([c.toNat], 1)) : ReadsBack c written :=
  ⟨[Char.ofNat 0x5c, d], hwritten, fun rest =>
    literalBody?_escape [d.toNat] (hescape rest)⟩

/-- A backslash, the letter `u` and four digits. -/
theorem ReadsBack.unicode {c : Char} (h : c.toNat < 65536) :
    ReadsBack c (Bytes.lit "\\u" ++ Bytes.hex 4 c.toNat) := by
  obtain ⟨ds, hds, hlen, hnumber⟩ := hexNumber?_hex h
  refine ⟨Char.ofNat 0x5c :: Char.ofNat 0x75 :: ds, ?_, fun rest => ?_⟩
  · rw [hds]
    rfl
  · have hescape : escape? (0x75 :: ds.map Char.toNat ++ rest) =
        some ([c.toNat], (0x75 :: ds.map Char.toNat).length) := by
      have hhead := head_ne_of_hexNumber? (by decide) (hnumber rest)
      have hunicode : unicodeEscape? (ds.map Char.toNat ++ rest) = some ([c.toNat], 5) := by
        rw [unicodeEscape?, if_neg hhead, hnumber rest, Option.map_some]
      simp only [List.length_cons, List.length_map, hlen]
      exact hunicode
    exact literalBody?_escape _ hescape

theorem readsBack_escapeChar (c : Char) : ReadsBack c (escapeChar c) := by
  unfold escapeChar
  simp only
  split
  · rename_i hc
    exact .pair (Char.ofNat 0x22) (by decide) fun rest => by rw [hc]; rfl
  split
  · rename_i hc
    exact .pair (Char.ofNat 0x5c) (by decide) fun rest => by rw [hc]; rfl
  split
  · rename_i hc
    exact .pair (Char.ofNat 0x6e) (by decide) fun rest => by rw [hc]; rfl
  split
  · rename_i hc
    exact .pair (Char.ofNat 0x72) (by decide) fun rest => by rw [hc]; rfl
  split
  · rename_i hc
    exact .pair (Char.ofNat 0x74) (by decide) fun rest => by rw [hc]; rfl
  split
  · rename_i hc
    exact .pair (Char.ofNat 0x62) (by decide) fun rest => by rw [hc]; rfl
  split
  · rename_i hc
    exact .pair (Char.ofNat 0x66) (by decide) fun rest => by rw [hc]; rfl
  split
  · rename_i hc
    exact .pair (Char.ofNat 0x76) (by decide) fun rest => by rw [hc]; rfl
  split
  · rename_i hc
    exact .unicode (by omega)
  · rename_i hquote hslash hlf hcr _ _ _ _ _
    exact ⟨[c], by simp [Utf8.encodeChars], literalBody?_plain hquote hslash hlf hcr⟩

/-- Reading a quoted text gives its characters, a stray byte being the replacement character. -/
theorem literalValue?_quote (s : Bytes) : literalValue? (quote s) = some (Utf8.chars s) := by
  have hbody : ∀ text : List Char, ∃ cs : List Char,
      text.flatMap escapeChar = Utf8.encodeChars cs ∧
        ∀ rest, literalBody? 0x22 (cs.map Char.toNat ++ rest) =
          (literalBody? 0x22 rest).map (text.map Char.toNat ++ ·) := by
    intro text
    induction text with
    | nil => exact ⟨[], rfl, fun rest => by simp⟩
    | cons c text ih =>
        obtain ⟨cs, hcs, hc⟩ := readsBack_escapeChar c
        obtain ⟨ds, hds, htext⟩ := ih
        refine ⟨cs ++ ds, by simp [Utf8.encodeChars, hcs, hds], fun rest => ?_⟩
        rw [List.map_append, List.append_assoc, hc, htext]
        simp [Function.comp_def]
  obtain ⟨cs, hcs, hread⟩ := hbody (Utf8.chars s)
  have hquote : quote s = Utf8.encodeChars (Char.ofNat 0x22 :: (cs ++ [Char.ofNat 0x22])) := by
    rw [quote, hcs, Utf8.encodeChars, Utf8.encodeChars, List.flatMap_cons, List.flatMap_append]
    rfl
  have hend : literalBody? 0x22 ([0x22] : List Nat) = some [] := by
    rw [literalBody?]
    rfl
  have hread' := hread [0x22]
  rw [hend, Option.map_some, List.append_nil] at hread'
  have hcodes : codes (quote s) = 0x22 :: (cs.map Char.toNat ++ [0x22]) := by
    rw [codes, hquote, Utf8.chars_encodeChars, List.map_cons, List.map_append]
    rfl
  rw [literalValue?, hcodes]
  simp only [true_or, if_true, hread', Option.map_some, joinPairs_toNat]

end ComponentCompiler.Script
