import Folio.Text.Basic

/-!
# Transliteration to ASCII

Characters above ASCII are spelled by a table. The spelling of an ideograph ends in a blank that keeps
it apart from the next word; that blank is dropped where nothing or another blank follows.
-/

namespace Folio.Transliteration

def spellings : List (Nat × String) :=
  [(0xA0, " "), (0xA1, "!"), (0xA2, "C/"), (0xA3, "PS"), (0xA4, "$?"), (0xA5, "Y="), (0xA6, "|"),
   (0xA7, "SS"), (0xA8, "\""), (0xA9, "(c)"), (0xAA, "a"), (0xAB, "<<"), (0xAC, "!"), (0xAD, ""),
   (0xAE, "(r)"), (0xAF, "-"), (0xB0, "deg"), (0xB1, "+-"), (0xB2, "2"), (0xB3, "3"), (0xB4, "'"),
   (0xB5, "u"), (0xB6, "P"), (0xB7, "*"), (0xB8, ","), (0xB9, "1"), (0xBA, "o"), (0xBB, ">>"),
   (0xBC, "1/4"), (0xBD, "1/2"), (0xBE, "3/4"), (0xBF, "?"), (0xC0, "A"), (0xC1, "A"), (0xC2, "A"),
   (0xC3, "A"), (0xC4, "A"), (0xC5, "A"), (0xC6, "AE"), (0xC7, "C"), (0xC8, "E"), (0xC9, "E"),
   (0xCA, "E"), (0xCB, "E"), (0xCC, "I"), (0xCD, "I"), (0xCE, "I"), (0xCF, "I"), (0xD0, "D"),
   (0xD1, "N"), (0xD2, "O"), (0xD3, "O"), (0xD4, "O"), (0xD5, "O"), (0xD6, "O"), (0xD7, "x"),
   (0xD8, "O"), (0xD9, "U"), (0xDA, "U"), (0xDB, "U"), (0xDC, "U"), (0xDD, "Y"), (0xDE, "Th"),
   (0xDF, "ss"), (0xE0, "a"), (0xE1, "a"), (0xE2, "a"), (0xE3, "a"), (0xE4, "a"), (0xE5, "a"),
   (0xE6, "ae"), (0xE7, "c"), (0xE8, "e"), (0xE9, "e"), (0xEA, "e"), (0xEB, "e"), (0xEC, "i"),
   (0xED, "i"), (0xEE, "i"), (0xEF, "i"), (0xF0, "d"), (0xF1, "n"), (0xF2, "o"), (0xF3, "o"),
   (0xF4, "o"), (0xF5, "o"), (0xF6, "o"), (0xF7, "/"), (0xF8, "o"), (0xF9, "u"), (0xFA, "u"),
   (0xFB, "u"), (0xFC, "u"), (0xFD, "y"), (0xFE, "th"), (0xFF, "y"), (0x100, "A"), (0x101, "a"),
   (0x102, "A"), (0x103, "a"), (0x104, "A"), (0x105, "a"), (0x106, "C"), (0x107, "c"), (0x108, "C"),
   (0x109, "c"), (0x10A, "C"), (0x10B, "c"), (0x10C, "C"), (0x10D, "c"), (0x10E, "D"), (0x10F, "d"),
   (0x110, "D"), (0x111, "d"), (0x112, "E"), (0x113, "e"), (0x114, "E"), (0x115, "e"), (0x116, "E"),
   (0x117, "e"), (0x118, "E"), (0x119, "e"), (0x11A, "E"), (0x11B, "e"), (0x11C, "G"), (0x11D, "g"),
   (0x11E, "G"), (0x11F, "g"), (0x120, "G"), (0x121, "g"), (0x122, "G"), (0x123, "g"), (0x124, "H"),
   (0x125, "h"), (0x126, "H"), (0x127, "h"), (0x128, "I"), (0x129, "i"), (0x12A, "I"), (0x12B, "i"),
   (0x12C, "I"), (0x12D, "i"), (0x12E, "I"), (0x12F, "i"), (0x130, "I"), (0x131, "i"),
   (0x132, "IJ"), (0x133, "ij"), (0x134, "J"), (0x135, "j"), (0x136, "K"), (0x137, "k"),
   (0x138, "k"), (0x139, "L"), (0x13A, "l"), (0x13B, "L"), (0x13C, "l"), (0x13D, "L"), (0x13E, "l"),
   (0x13F, "L"), (0x140, "l"), (0x141, "L"), (0x142, "l"), (0x143, "N"), (0x144, "n"), (0x145, "N"),
   (0x146, "n"), (0x147, "N"), (0x148, "n"), (0x149, "'n"), (0x14A, "ng"), (0x14B, "NG"),
   (0x14C, "O"), (0x14D, "o"), (0x14E, "O"), (0x14F, "o"), (0x150, "O"), (0x151, "o"),
   (0x152, "OE"), (0x153, "oe"), (0x154, "R"), (0x155, "r"), (0x156, "R"), (0x157, "r"),
   (0x158, "R"), (0x159, "r"), (0x15A, "S"), (0x15B, "s"), (0x15C, "S"), (0x15D, "s"), (0x15E, "S"),
   (0x15F, "s"), (0x160, "S"), (0x161, "s"), (0x162, "T"), (0x163, "t"), (0x164, "T"), (0x165, "t"),
   (0x166, "T"), (0x167, "t"), (0x168, "U"), (0x169, "u"), (0x16A, "U"), (0x16B, "u"), (0x16C, "U"),
   (0x16D, "u"), (0x16E, "U"), (0x16F, "u"), (0x170, "U"), (0x171, "u"), (0x172, "U"), (0x173, "u"),
   (0x174, "W"), (0x175, "w"), (0x176, "Y"), (0x177, "y"), (0x178, "Y"), (0x179, "Z"), (0x17A, "z"),
   (0x17B, "Z"), (0x17C, "z"), (0x17D, "Z"), (0x17E, "z"), (0x17F, "s"), (0x1C5, "Dz"), (0x301, ""),
   (0x395, "E"), (0x3AC, "a"), (0x3B1, "a"), (0x3B4, "d"), (0x3BB, "l"), (0x41C, "M"),
   (0x429, "Shch"), (0x430, "a"), (0x432, "v"), (0x43A, "k"), (0x43E, "o"), (0x441, "s"),
   (0x443, "u"), (0x5D5, "v"), (0x5DC, "l"), (0x5DD, "m"), (0x5E9, "sh"), (0x627, ""), (0x628, "b"),
   (0x62D, "H"), (0x631, "r"), (0x645, "m"), (0x200B, " "), (0x200D, ""), (0x2013, "-"),
   (0x2014, "--"), (0x2018, "'"), (0x2019, "'"), (0x201C, "\""), (0x201D, "\""), (0x2026, "..."),
   (0x2028, "\n"), (0x2029, "\n\n"), (0x20AC, "EUR"), (0x2116, "No"), (0x2122, "tm"), (0x212A, "K"),
   (0x212B, "A"), (0x3000, " "), (0x304C, "ga"), (0x306A, "na"), (0x3072, "hi"), (0x3089, "ra"),
   (0x4E2D, "Zhong "), (0x4EAC, "Jing "), (0x5317, "Bei "), (0x56FD, "Guo "), (0x65E5, "Ri "),
   (0x672C, "Ben "), (0x8A9E, "Yu "), (0xAD6D, "gug"), (0xD55C, "han"), (0xFB01, "fi"),
   (0xFEFF, ""), (0xFF26, "F"), (0xFF4C, "l"), (0xFF55, "u"), (0x1F436, "dog "),
   (0x1F984, "unicorn ")]

/-- The spelling of a character, `none` where none is known. ASCII below the delete character stands
for itself; the controls after it have an empty spelling. -/
def spelling? (c : Char) : Option Text :=
  if c.toNat < 0x7F then some [c]
  else if c.toNat < 0xA0 then some []
  else (spellings.lookup c.toNat).map String.toList

def startsBlank : List (Option Text) → Bool
  | [] => true
  | some (' ' :: _) :: _ => true
  | _ => false

/-- Puts spellings together. An unknown character becomes `[?]`. -/
def assemble : List (Option Text) → Text
  | [] => []
  | none :: rest => "[?]".toList ++ assemble rest
  | some s :: rest =>
    (if 1 < s.length && s.getLast? = some ' ' && startsBlank rest then s.dropLast else s)
      ++ assemble rest

def toAscii (t : Text) : Text := assemble (t.map spelling?)

end Folio.Transliteration
