import Folio.Unicode.Alphabetic
import Folio.Unicode.Mark
import Folio.Unicode.Numeric
import Folio.Unicode.Punctuation

/-!
# Character classes

The classes of characters that the readers of the library ask for. Each is decided directly for ASCII
and by a table of ranges above it.
-/

namespace Folio.Unicode

def inRanges (ranges : List (Nat × Nat)) (n : Nat) : Bool :=
  ranges.any fun r => r.1 ≤ n && n ≤ r.2

/-- The characters with the property White_Space. -/
def isBlank (c : Char) : Bool :=
  inRanges [(0x9, 0xD), (0x20, 0x20), (0x85, 0x85), (0xA0, 0xA0), (0x1680, 0x1680), (0x2000, 0x200A),
    (0x2028, 0x2029), (0x202F, 0x202F), (0x205F, 0x205F), (0x3000, 0x3000)] c.toNat

def isAsciiAlphanumeric (c : Char) : Bool := c.isAlpha || c.isDigit

def isAlphanumeric (c : Char) : Bool :=
  if c.toNat < 0x80 then isAsciiAlphanumeric c
  else inRanges alphabeticRanges c.toNat || inRanges decimalRanges c.toNat ||
    inRanges otherNumberRanges c.toNat

/-- Characters of words: alphabetic characters, marks, decimal digits, connector punctuation such as
the low line, and the two joiners. -/
def isWord (c : Char) : Bool :=
  if c.toNat < 0x80 then isAsciiAlphanumeric c || c = '_'
  else inRanges alphabeticRanges c.toNat || inRanges markRanges c.toNat ||
    inRanges decimalRanges c.toNat ||
    inRanges [(0x200C, 0x200D), (0x203F, 0x2040), (0x2054, 0x2054), (0xFE33, 0xFE34),
      (0xFE4D, 0xFE4F), (0xFF3F, 0xFF3F)] c.toNat

def isAsciiPunctuation (c : Char) : Bool :=
  inRanges [(0x21, 0x2F), (0x3A, 0x40), (0x5B, 0x60), (0x7B, 0x7E)] c.toNat

def isPunctuation (c : Char) : Bool :=
  if c.toNat < 0x80 then isAsciiPunctuation c else inRanges punctuationRanges c.toNat

end Folio.Unicode
