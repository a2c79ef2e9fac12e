import Folio.Number.Binary64
import Folio.Text.Basic

/-!
# Shortest decimals

The shortest decimal of a double has the fewest digits among those that lie closer to it than to any
other double, and of the decimals with so many digits it is the nearest one. For each count of digits
only the two neighbours of the number on the decimal grid need a test.
-/

namespace Folio

structure Decimal where
  digits : Nat
  exponent : Int
deriving DecidableEq, Inhabited

namespace Binary64

def decimalPoint (x : Binary64) : Int :=
  let m := x.magnitude
  let guess : Int := ((Nat.log2 m.1 : Int) - Nat.log2 m.2) * 30103 / 100000 - 1
  let below (p : Int) : Bool := m.1 * Nat.pow 10 (-p).toNat < m.2 * Nat.pow 10 p.toNat
  match (List.range 4).find? fun (i : Nat) => below (guess + i) with
  | some i => guess + i
  | none => guess + 4

/-- The neighbour on the grid of `count` digits that reads back as the number, if one does. -/
def shortestWith? (x : Binary64) (point : Int) (count : Nat) : Option Decimal :=
  let unit : Int := point - count
  let two := Nat.pow 2 (-x.exponent).toNat
  let ten := Nat.pow 10 (-unit).toNat
  let ulp := Nat.pow 2 x.exponent.toNat * ten
  let value := 4 * x.significand * ulp
  let step := 4 * Nat.pow 10 unit.toNat * two
  let above := 2 * ulp
  let below := if x.significand = Nat.pow 2 52 && minExponent < x.exponent then ulp else 2 * ulp
  let closed := x.significand % 2 = 0
  let lower := value / step
  let down := value - lower * step
  let up := (lower + 1) * step - value
  let downHits := if closed then down ≤ below else down < below
  let upHits := if closed then up ≤ above else up < above
  if downHits && (!upHits || down < up || (down = up && lower % 2 = 0)) then some ⟨lower, unit⟩
  else if upHits then some (if lower + 1 = Nat.pow 10 count then ⟨1, unit + count⟩ else ⟨lower + 1, unit⟩)
  else none

/-- The shortest decimal of the size of a number. Seventeen digits always read back. -/
def shortest (x : Binary64) : Decimal :=
  if x.significand = 0 then ⟨0, 0⟩
  else
    let point := x.decimalPoint
    ((List.range 18).findSome? fun count =>
      if count = 0 then none else x.shortestWith? point count).getD ⟨0, 0⟩

end Binary64

end Folio
