import Folio.Markup.Scan

/-!
# Blanks against the other classes

Readers that take a run of one class and then a run of another one are deterministic because the classes
are disjoint. Blanks are neither characters of names nor characters of words.
-/

namespace Folio.Unicode

def blankCodes : List Nat :=
  [0x9, 0xA, 0xB, 0xC, 0xD, 0x20, 0x85, 0xA0, 0x1680, 0x2000, 0x2001, 0x2002, 0x2003, 0x2004, 0x2005,
    0x2006, 0x2007, 0x2008, 0x2009, 0x200A, 0x2028, 0x2029, 0x202F, 0x205F, 0x3000]

theorem toNat_mem_blankCodes {c : Char} (h : isBlank c = true) : c.toNat ∈ blankCodes := by
  simp only [isBlank, inRanges, List.any_cons, List.any_nil, Bool.or_false, Bool.or_eq_true,
    Bool.and_eq_true, decide_eq_true_eq] at h
  simp only [blankCodes, List.mem_cons, List.not_mem_nil, or_false]
  omega

theorem classes_of_blankCodes : ∀ n ∈ blankCodes,
    Markup.isNameChar (Char.ofNat n) = false ∧ isWord (Char.ofNat n) = false := by
  decide +kernel

theorem isNameChar_of_isBlank {c : Char} (h : isBlank c = true) : Markup.isNameChar c = false := by
  have hc := (classes_of_blankCodes c.toNat (toNat_mem_blankCodes h)).1
  rwa [Char.ofNat_toNat] at hc

theorem isWord_of_isBlank {c : Char} (h : isBlank c = true) : isWord c = false := by
  have hc := (classes_of_blankCodes c.toNat (toNat_mem_blankCodes h)).2
  rwa [Char.ofNat_toNat] at hc

end Folio.Unicode
