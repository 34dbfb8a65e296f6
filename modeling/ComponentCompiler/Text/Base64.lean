import ComponentCompiler.Bytes.Basic

/-!
# Base 64

Three bytes are written as four letters of six bits each. Line breaks are ignored, and an incomplete
last group is filled up with equals signs.
-/

namespace ComponentCompiler.Base64

/-- The six bits that a letter stands for. -/
def bits? (c : UInt8) : Option Nat :=
  if Ascii.isUpper c then some (c.toNat - 65)
  else if Ascii.isLower c then some (c.toNat - 71)
  else if Ascii.isDigit c then some (c.toNat + 4)
  else if c = Ascii.plus then some 62
  else if c = Ascii.slash then some 63
  else none

/-- The bytes of groups of four letters; the last group may be filled up. -/
def groups? : Bytes → Option Bytes
  | [] => some []
  | [a, b, 0x3d, 0x3d] => do
    let x ← bits? a
    let y ← bits? b
    return [(x * 4 + y / 16).toUInt8]
  | [a, b, c, 0x3d] => do
    let x ← bits? a
    let y ← bits? b
    let z ← bits? c
    return [(x * 4 + y / 16).toUInt8, (y % 16 * 16 + z / 4).toUInt8]
  | a :: b :: c :: d :: rest => do
    let x ← bits? a
    let y ← bits? b
    let z ← bits? c
    let w ← bits? d
    let tail ← groups? rest
    return (x * 4 + y / 16).toUInt8 :: (y % 16 * 16 + z / 4).toUInt8 ::
      (z % 4 * 64 + w).toUInt8 :: tail
  | _ => none

/-- The bytes that a text stands for. -/
def decode? (s : Bytes) : Option Bytes :=
  groups? (s.filter fun c => c != Ascii.newline && c != Ascii.carriageReturn)

end ComponentCompiler.Base64
