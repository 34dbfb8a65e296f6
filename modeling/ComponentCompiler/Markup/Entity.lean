import Std.Data.HashMap
import ComponentCompiler.Text.Utf8
import ComponentCompiler.Markup.Entity.Capital
import ComponentCompiler.Markup.Entity.SmallFirst
import ComponentCompiler.Markup.Entity.SmallLast

/-!
# Character references

A character reference in text or in an attribute value stands for one or two characters: by number,
in decimal or hexadecimal, or by name. Some names may lack their semicolon. What is no reference
stands for itself.
-/

namespace ComponentCompiler.Markup.Entity

/-- All named references. A name whose characters would take more bytes than the reference itself is
not among them. -/
def table : Std.HashMap String (List Nat) :=
  Std.HashMap.ofList <| List.flatten
    [capitalA, capitalB, capitalC, capitalD, capitalE, capitalF, capitalG, capitalH, capitalI,
     capitalJ, capitalK, capitalL, capitalM, capitalN, capitalO, capitalP, capitalQ, capitalR,
     capitalS, capitalT, capitalU, capitalV, capitalW, capitalX, capitalY, capitalZ, smallA, smallB,
     smallC, smallD, smallE, smallF, smallG, smallH, smallI, smallJ, smallK, smallL, smallM, smallN,
     smallO, smallP, smallQ, smallR, smallS, smallT, smallU, smallV, smallW, smallX, smallY, smallZ]

/-- The code points of a named reference. -/
def named? (name : Bytes) : Option (List Nat) :=
  table.get? (String.ofList (name.map fun b => Char.ofNat b.toNat))

/-- What the numbers from 0x80 to 0x9f denote: the characters at these places of the Windows-1252
code page. -/
def windows1252 : List Nat :=
  [0x20ac, 0x81, 0x201a, 0x192, 0x201e, 0x2026, 0x2020, 0x2021, 0x2c6, 0x2030, 0x160, 0x2039, 0x152,
   0x8d, 0x17d, 0x8f, 0x90, 0x2018, 0x2019, 0x201c, 0x201d, 0x2022, 0x2013, 0x2014, 0x2dc, 0x2122,
   0x161, 0x203a, 0x153, 0x9d, 0x17e, 0x178]

/-- The code point that a number denotes. Numbers are read modulo 2^32, and a number that is no
character denotes the replacement character. -/
def numbered (n : Nat) : Nat :=
  let n := n % 0x100000000
  if 0x80 ≤ n ∧ n ≤ 0x9f then windows1252.getD (n - 0x80) n
  else if n ≠ 0 ∧ n.isValidChar then n
  else 0xfffd

/-- A reference that was read: the bytes that it stands for and how many bytes it takes after the
ampersand. -/
structure Reference where
  text : Bytes
  size : Nat
  deriving Repr, Inhabited

/-- The number that a list of digits denotes. -/
def valueOf (base : Nat) (digits : Bytes) : Nat :=
  digits.foldl (fun n d => base * n + (Ascii.hexValue? d).getD 0) 0

/-- One if a semicolon comes next, else zero. -/
def semicolons (s : Bytes) : Nat := if s.head? = some Ascii.semicolon then 1 else 0

/-- A reference by number. `s` is what follows the ampersand and the hash. A single decimal digit
needs its semicolon, and a hexadecimal number may be empty if it has one. -/
def byNumber? (s : Bytes) : Option Reference :=
  match s with
  | c :: d :: rest =>
    if c = 0x78 ∨ c = 0x58 then
      let digits := (d :: rest).takeWhile fun b => (Ascii.hexValue? b).isSome
      let size := digits.length + semicolons ((d :: rest).drop digits.length)
      if size = 0 then none
      else some ⟨Utf8.encodeCode (numbered (valueOf 16 digits)), 2 + size⟩
    else
      let digits := s.takeWhile Ascii.isDigit
      let size := digits.length + semicolons (s.drop digits.length)
      if size ≤ 1 then none
      else some ⟨Utf8.encodeCode (numbered (valueOf 10 digits)), 1 + size⟩
  | _ => none

/-- The most bytes that a name without a semicolon has. -/
def longestBareName : Nat := 6

/-- The longest beginning of `name`, of at least two and at most `size` bytes, that is a name. -/
def longestNamed? (name : Bytes) : Nat → Option Reference
  | 0 | 1 => none
  | size + 2 =>
    match named? (name.take (size + 2)) with
    | some codes => some ⟨codes.flatMap Utf8.encodeCode, size + 2⟩
    | none => longestNamed? name (size + 1)

/-- A reference by name. In an attribute value a name without a semicolon is none before an equals
sign, and only a whole name counts. -/
def byName? (inAttribute : Bool) (s : Bytes) : Option Reference :=
  let word := s.takeWhile fun b => Ascii.isLetter b || Ascii.isDigit b
  let name := s.take (word.length + semicolons (s.drop word.length))
  if name.isEmpty then none
  else if inAttribute && name.length == word.length &&
    (s.drop name.length).head? == some Ascii.equals
  then none
  else
    match named? name with
    | some codes => some ⟨codes.flatMap Utf8.encodeCode, name.length⟩
    | none =>
      if inAttribute then none
      else longestNamed? name (min (name.length - 1) longestBareName)

/-- The reference, if any, that `s` continues after an ampersand. -/
def reference? (inAttribute : Bool) (s : Bytes) : Option Reference :=
  match s with
  | c :: rest => if c = Ascii.hash then byNumber? rest else byName? inAttribute s
  | [] => none

/-- A text with its character references replaced by what they stand for. -/
def unescape (inAttribute : Bool) : Bytes → Bytes
  | [] => []
  | c :: rest =>
    if c = Ascii.ampersand then
      match reference? inAttribute rest with
      | some r => r.text ++ unescape inAttribute (rest.drop r.size)
      | none => c :: unescape inAttribute rest
    else c :: unescape inAttribute rest
termination_by s => s.length
decreasing_by all_goals simp only [List.length_drop, List.length_cons]; omega

end ComponentCompiler.Markup.Entity
