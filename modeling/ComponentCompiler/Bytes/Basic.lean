import ComponentCompiler.Bytes.Ascii

/-!
# Byte strings

Sources, names, paths and generated code are byte strings: a source may hold bytes that are no valid
text, and every offset that the compiler reports counts bytes. A byte string is a list of bytes, so
the list library is its theory; this module adds the few operations that lists lack.
-/

namespace ComponentCompiler

/-- A string of arbitrary bytes. -/
abbrev Bytes := List UInt8

namespace Bytes

/-- The bytes of a literal text. -/
def lit (s : String) : Bytes := s.toUTF8.data.toList

/-- Whether `s` begins with `p`. -/
def startsWith (s p : Bytes) : Bool := p.isPrefixOf s

/-- Whether `s` ends with `p`. -/
def endsWith (s p : Bytes) : Bool := p.isSuffixOf s

/-- `s` without the ending `p`, or `s` itself when it does not end with `p`. -/
def dropEnding (s p : Bytes) : Bytes :=
  if s.endsWith p then s.take (s.length - p.length) else s

/-- The number of newline bytes. -/
def newlines (s : Bytes) : Nat := s.count Ascii.newline

/-- The offset of the first occurrence of `needle` in `s`. -/
def indexOf? (needle : Bytes) : Bytes → Option Nat
  | [] => if needle.isEmpty then some 0 else none
  | c :: rest =>
    if needle.isPrefixOf (c :: rest) then some 0 else (indexOf? needle rest).map (· + 1)

/-- `n` copies of `s` in a row. -/
def times (n : Nat) (s : Bytes) : Bytes := (List.replicate n s).flatten

/-- Byte order: the first differing byte decides, and a proper beginning comes first. -/
def lt : Bytes → Bytes → Bool
  | _, [] => false
  | [], _ :: _ => true
  | a :: s, b :: t => if a = b then lt s t else a < b

/-- Byte order as a total preorder, for sorting. -/
def le (s t : Bytes) : Bool := !lt t s

/-- A list of byte strings in ascending byte order. -/
def sort (xs : List Bytes) : List Bytes := xs.mergeSort le

/-- Decimal digits of a natural number. -/
def ofNat (n : Nat) : Bytes := (Nat.toDigits 10 n).map fun c => c.toNat.toUInt8

/-- Decimal digits of an integer, with a leading dash when it is negative. -/
def ofInt : Int → Bytes
  | .ofNat n => ofNat n
  | .negSucc n => Ascii.dash :: ofNat (n + 1)

/-- The lower-case hexadecimal digit of a value below 16. -/
def hexDigit (n : Nat) : UInt8 := if n < 10 then (0x30 + n).toUInt8 else (0x57 + n).toUInt8

/-- The last `width` hexadecimal digits of `n`. -/
def hex : Nat → Nat → Bytes
  | 0, _ => []
  | width + 1, n => hex width (n / 16) ++ [hexDigit (n % 16)]

/-- `s` behind as many spaces as make it `width` bytes wide. -/
def padLeft (width : Nat) (s : Bytes) : Bytes :=
  List.replicate (width - s.length) Ascii.space ++ s

/-- ASCII capitals in lower case, every other byte unchanged. -/
def lowerAscii (s : Bytes) : Bytes := s.map Ascii.toLower

/-- A joined list is its first piece, and each other piece behind a separator. -/
theorem intercalate_cons (sep piece : Bytes) (pieces : List Bytes) :
    sep.intercalate (piece :: pieces) = piece ++ pieces.flatMap (sep ++ ·) := by
  induction pieces generalizing piece with
  | nil => rw [List.intercalate_singleton, List.flatMap_nil, List.append_nil]
  | cons next pieces ih =>
    rw [List.intercalate_cons_cons, ih, List.flatMap_cons, List.append_assoc, List.append_assoc]

/-- A run of bytes of one kind ends at the first byte of another. -/
theorem takeWhile_append_cons {p : UInt8 → Bool} {s : Bytes} {c : UInt8} (hs : ∀ b ∈ s, p b)
    (hc : p c = false) (rest : Bytes) :
    (s ++ c :: rest).takeWhile p = s := by
  rw [List.takeWhile_append_of_pos hs, List.takeWhile_cons_of_neg (by simp [hc]), List.append_nil]

theorem takeWhile_ne_append_cons {sep : UInt8} {s : Bytes} (h : sep ∉ s) (rest : Bytes) :
    (s ++ sep :: rest).takeWhile (· != sep) = s := by
  refine takeWhile_append_cons (fun b hb => ?_) (by simp) rest
  rw [bne_iff_ne]
  rintro rfl
  exact h hb

end Bytes

end ComponentCompiler
