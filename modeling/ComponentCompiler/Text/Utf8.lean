import ComponentCompiler.Bytes.Basic

/-!
# Reading byte strings as text

A byte string is read as a list of runes: each rune is a Unicode scalar value in its shortest UTF-8
form, or a single stray byte at which no such form begins. Reading loses nothing, because writing
the runes back gives the bytes again (`encode_decode`).
-/

namespace ComponentCompiler

/-- One step of reading text: a scalar value, or a byte that begins no well-formed sequence. -/
inductive Rune where
  | scalar (c : Char)
  | stray (b : UInt8)
  deriving DecidableEq, Repr, Inhabited

namespace Rune

/-- The bytes that a rune was read from. -/
def bytes : Rune → Bytes
  | scalar c => String.utf8EncodeChar c
  | stray b => [b]

/-- The replacement character, which stands for a stray byte wherever text is rebuilt. -/
def replacement : Char := Char.ofNat 0xfffd

/-- The character that a rune denotes: a stray byte denotes the replacement character. -/
def toChar : Rune → Char
  | scalar c => c
  | stray _ => replacement

/-- The code point that a rune denotes. -/
def code (r : Rune) : Nat := r.toChar.toNat

end Rune

namespace Utf8

/-- A byte that continues a sequence. -/
def isTail (b : UInt8) : Bool := 0x80 ≤ b && b ≤ 0xbf

/-- The low six bits of a continuing byte. -/
def tailBits (b : UInt8) : Nat := b.toNat % 64

/-- `n` as a rune when it is a scalar value of at least `least`, the smallest value that needs a
sequence of this length; otherwise the leading byte `a` is stray. -/
def shortest (a : UInt8) (least n : Nat) : Rune :=
  if least ≤ n ∧ n.isValidChar then .scalar (Char.ofNat n) else .stray a

/-- The rune that begins with the byte `a`, followed by `rest`. -/
def front (a : UInt8) (rest : Bytes) : Rune :=
  if a < 0x80 then .scalar (Char.ofNat a.toNat)
  else if a < 0xc0 then .stray a
  else if a < 0xe0 then
    match rest with
    | b :: _ => if isTail b then shortest a 0x80 (a.toNat % 32 * 64 + tailBits b) else .stray a
    | [] => .stray a
  else if a < 0xf0 then
    match rest with
    | b :: c :: _ =>
      if isTail b && isTail c then
        shortest a 0x800 (a.toNat % 16 * 4096 + tailBits b * 64 + tailBits c)
      else .stray a
    | _ => .stray a
  else if a < 0xf8 then
    match rest with
    | b :: c :: d :: _ =>
      if isTail b && isTail c && isTail d then
        shortest a 0x10000
          (a.toNat % 8 * 262144 + tailBits b * 4096 + tailBits c * 64 + tailBits d)
      else .stray a
    | _ => .stray a
  else .stray a

/-- The number of bytes that a rune takes. -/
def width (r : Rune) : Nat := r.bytes.length

/-- The runes of a byte string. -/
def decode : Bytes → List Rune
  | [] => []
  | a :: rest =>
    let r := front a rest
    r :: decode (rest.drop (width r - 1))
termination_by s => s.length
decreasing_by simp only [List.length_drop, List.length_cons]; omega

/-- The bytes of a list of runes. -/
def encode (rs : List Rune) : Bytes := rs.flatMap Rune.bytes

/-- The UTF-8 form of a code point; a number that is no scalar value gives the replacement
character. -/
def encodeCode (n : Nat) : Bytes :=
  String.utf8EncodeChar (if n.isValidChar then Char.ofNat n else Rune.replacement)

/-- The UTF-8 form of a list of characters. -/
def encodeChars (cs : List Char) : Bytes := cs.flatMap String.utf8EncodeChar

/-- The characters of a byte string, a replacement character standing for each stray byte. -/
def chars (s : Bytes) : List Char := (decode s).map Rune.toChar

/-- Whether every byte of `s` belongs to a well-formed sequence. -/
def isValid (s : Bytes) : Bool :=
  (decode s).all fun
    | .scalar _ => true
    | .stray _ => false

/-- The continuing bytes by number. -/
theorem isTail_iff {b : UInt8} : isTail b = true ↔ 128 ≤ b.toNat ∧ b.toNat ≤ 191 := by
  simp [isTail, UInt8.le_iff_toNat_le]

/-- The bytes of a valid code point, by its number. -/
theorem bytes_scalar {n : Nat} (h : n.isValidChar) :
    (Rune.scalar (Char.ofNat n)).bytes =
      if n ≤ 127 then [UInt8.ofNat n]
      else if n ≤ 2047 then [UInt8.ofNat (n / 64 % 32 + 192), UInt8.ofNat (n % 64 + 128)]
      else if n ≤ 65535 then
        [UInt8.ofNat (n / 4096 % 16 + 224), UInt8.ofNat (n / 64 % 64 + 128),
          UInt8.ofNat (n % 64 + 128)]
      else
        [UInt8.ofNat (n / 262144 % 8 + 240), UInt8.ofNat (n / 4096 % 64 + 128),
          UInt8.ofNat (n / 64 % 64 + 128), UInt8.ofNat (n % 64 + 128)] := by
  have hn : (Char.ofNat n).val.toNat = n := by
    rw [Char.ofNat, dif_pos h]
    rfl
  simp only [Rune.bytes, String.utf8EncodeChar, hn]

/-- A byte is the only one with its number. -/
theorem ofNat_eq {b : UInt8} {n : Nat} (h : n = b.toNat) : UInt8.ofNat n = b := by
  rw [h, UInt8.ofNat_toNat]

/-- A rune was read from the front of the bytes. -/
theorem bytes_front (a : UInt8) (rest : Bytes) :
    ∃ k, (front a rest).bytes = a :: rest.take k := by
  have ha : a.toNat < 256 := a.toNat_lt
  unfold front
  simp only [UInt8.lt_iff_toNat_lt, UInt8.reduceToNat]
  split
  · refine ⟨0, ?_⟩
    rw [bytes_scalar (by simp [Nat.isValidChar]; omega), if_pos (by omega), ofNat_eq rfl]; rfl
  split
  · exact ⟨0, rfl⟩
  split
  · match rest with
    | [] => exact ⟨0, rfl⟩
    | b :: more =>
      dsimp only
      split
      · rename_i hb
        rw [isTail_iff] at hb
        unfold shortest tailBits
        split
        · rename_i h
          refine ⟨1, ?_⟩
          rw [bytes_scalar h.2, if_neg (by omega), if_pos (by omega), ofNat_eq (b := a) (by omega),
            ofNat_eq (b := b) (by omega)]; rfl
        · exact ⟨0, rfl⟩
      · exact ⟨0, rfl⟩
  split
  · match rest with
    | [] | [_] => exact ⟨0, rfl⟩
    | b :: c :: more =>
      dsimp only
      split
      · rename_i hbc
        rw [Bool.and_eq_true, isTail_iff, isTail_iff] at hbc
        unfold shortest tailBits
        split
        · rename_i h
          refine ⟨2, ?_⟩
          rw [bytes_scalar h.2, if_neg (by omega), if_neg (by omega), if_pos (by omega),
            ofNat_eq (b := a) (by omega), ofNat_eq (b := b) (by omega),
            ofNat_eq (b := c) (by omega)]
          rfl
        · exact ⟨0, rfl⟩
      · exact ⟨0, rfl⟩
  split
  · match rest with
    | [] | [_] | [_, _] => exact ⟨0, rfl⟩
    | b :: c :: d :: more =>
      dsimp only
      split
      · rename_i hbcd
        rw [Bool.and_eq_true, Bool.and_eq_true, isTail_iff, isTail_iff, isTail_iff] at hbcd
        unfold shortest tailBits
        split
        · rename_i h
          refine ⟨3, ?_⟩
          rw [bytes_scalar h.2, if_neg (by omega), if_neg (by omega), if_neg (by omega),
            ofNat_eq (b := a) (by omega), ofNat_eq (b := b) (by omega),
            ofNat_eq (b := c) (by omega), ofNat_eq (b := d) (by omega)]
          rfl
        · exact ⟨0, rfl⟩
      · exact ⟨0, rfl⟩
  · exact ⟨0, rfl⟩

/-- Writing the runes of a byte string gives the byte string back. -/
theorem encode_decode (s : Bytes) : encode (decode s) = s := by
  fun_induction decode s with
  | case1 => rfl
  | case2 a rest r ih =>
    obtain ⟨k, hk⟩ := bytes_front a rest
    have hw : width r - 1 = min k rest.length := by simp [r, width, hk]
    have hd : rest.drop (width r - 1) = rest.drop k := by
      rw [hw]; rcases Nat.le_total k rest.length with h | h
      · rw [Nat.min_eq_left h]
      · rw [Nat.min_eq_right h, List.drop_length, List.drop_eq_nil_of_le h]
    rw [hd] at ih
    simp only [encode, List.flatMap_cons] at ih ⊢
    rw [hd, ih, show r.bytes = a :: rest.take k from hk, List.cons_append, List.take_append_drop]

end Utf8

end ComponentCompiler
