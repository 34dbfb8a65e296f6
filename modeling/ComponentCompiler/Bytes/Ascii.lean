/-!
# ASCII bytes

Names for the ASCII bytes that mean something to the markup, script and settings readers, and the
byte classes that those readers share. A byte of 128 or more belongs to no class here.
-/

namespace ComponentCompiler.Ascii

abbrev nul : UInt8 := 0x00
abbrev tab : UInt8 := 0x09
abbrev newline : UInt8 := 0x0a
abbrev verticalTab : UInt8 := 0x0b
abbrev formFeed : UInt8 := 0x0c
abbrev carriageReturn : UInt8 := 0x0d
abbrev space : UInt8 := 0x20
abbrev bang : UInt8 := 0x21
abbrev quote : UInt8 := 0x22
abbrev hash : UInt8 := 0x23
abbrev dollar : UInt8 := 0x24
abbrev ampersand : UInt8 := 0x26
abbrev apostrophe : UInt8 := 0x27
abbrev openParen : UInt8 := 0x28
abbrev closeParen : UInt8 := 0x29
abbrev star : UInt8 := 0x2a
abbrev plus : UInt8 := 0x2b
abbrev comma : UInt8 := 0x2c
abbrev dash : UInt8 := 0x2d
abbrev dot : UInt8 := 0x2e
abbrev slash : UInt8 := 0x2f
abbrev zero : UInt8 := 0x30
abbrev colon : UInt8 := 0x3a
abbrev semicolon : UInt8 := 0x3b
abbrev less : UInt8 := 0x3c
abbrev equals : UInt8 := 0x3d
abbrev greater : UInt8 := 0x3e
abbrev question : UInt8 := 0x3f
abbrev openBracket : UInt8 := 0x5b
abbrev backslash : UInt8 := 0x5c
abbrev closeBracket : UInt8 := 0x5d
abbrev underscore : UInt8 := 0x5f
abbrev backquote : UInt8 := 0x60
abbrev openBrace : UInt8 := 0x7b
abbrev closeBrace : UInt8 := 0x7d

/-- The bytes `0` to `9`. -/
def isDigit (c : UInt8) : Bool := 0x30 ≤ c && c ≤ 0x39

/-- The bytes `a` to `z`. -/
def isLower (c : UInt8) : Bool := 0x61 ≤ c && c ≤ 0x7a

/-- The bytes `A` to `Z`. -/
def isUpper (c : UInt8) : Bool := 0x41 ≤ c && c ≤ 0x5a

/-- The bytes `a` to `z` and `A` to `Z`. -/
def isLetter (c : UInt8) : Bool := isLower c || isUpper c

/-- The lower-case form of an ASCII capital; every other byte stands for itself. -/
def toLower (c : UInt8) : UInt8 := if isUpper c then c + 0x20 else c

/-- The value of a hexadecimal digit of either case. -/
def hexValue? (c : UInt8) : Option Nat :=
  if isDigit c then some (c.toNat - 0x30)
  else if 0x61 ≤ c && c ≤ 0x66 then some (c.toNat - 0x61 + 10)
  else if 0x41 ≤ c && c ≤ 0x46 then some (c.toNat - 0x41 + 10)
  else none

end ComponentCompiler.Ascii
