import Folio.Text.Basic

/-!
# Digits

The values of digits and of sequences of them.
-/

namespace Folio.Digits

def value (c : Char) : Nat := c.toNat - '0'.toNat

def hexValue? (c : Char) : Option Nat :=
  if c.isDigit then some (value c)
  else if 'a' ≤ c && c ≤ 'f' then some (c.toNat - 'a'.toNat + 10)
  else if 'A' ≤ c && c ≤ 'F' then some (c.toNat - 'A'.toNat + 10)
  else none

def isHex (c : Char) : Bool := (hexValue? c).isSome

/-- The number that hexadecimal digits write in a base. Other characters are passed over. -/
def toNat (base : Nat) (digits : Text) : Nat :=
  digits.foldl (fun n c => match hexValue? c with
    | some d => n * base + d
    | none => n) 0

end Folio.Digits
