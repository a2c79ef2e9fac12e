/-!
# Double precision numbers

A finite double is a sign, a significand and a power of two, all of them exact. Arithmetic is done on
ratios of natural numbers and rounded once, to the nearest double and on a tie to the one with an even
significand.
-/

namespace Folio

/-- The number `± significand · 2 ^ exponent`. The significand is below `2 ^ 53`, and below `2 ^ 52` only
with the least exponent, which is `-1074`. -/
structure Binary64 where
  negative : Bool
  significand : Nat
  exponent : Int
deriving DecidableEq, Inhabited

namespace Binary64

def minExponent : Int := -1074

def maxExponent : Int := 971

def zero (negative : Bool) : Binary64 := ⟨negative, 0, minExponent⟩

def twoPow (e : Int) : Nat × Nat := (Nat.pow 2 e.toNat, Nat.pow 2 (-e).toNat)

/-- The quotient rounded to the nearest natural number, on a tie to the even one. -/
def roundDiv (num den : Nat) : Nat :=
  let q := num / den
  let r := num % den
  if 2 * r < den then q
  else if den < 2 * r then q + 1
  else if q % 2 = 0 then q else q + 1

/-- The greatest `e` with `2 ^ e ≤ num / den`, for positive numbers. -/
def log2Floor (num den : Nat) : Int :=
  let e : Int := (Nat.log2 num : Int) - Nat.log2 den
  let p := twoPow e
  if num * p.2 < den * p.1 then e - 1 else e

/-- The double nearest to a ratio, `none` where that is beyond the range. -/
def ofRatio (negative : Bool) (num den : Nat) : Option Binary64 :=
  if num = 0 then some (zero negative)
  else
    let e := max minExponent (log2Floor num den - 52)
    let p := twoPow e
    let m := roundDiv (num * p.2) (den * p.1)
    let r : Binary64 := if m = Nat.pow 2 53 then ⟨negative, Nat.pow 2 52, e + 1⟩ else ⟨negative, m, e⟩
    if maxExponent < r.exponent then none else some r

def ofNat? (n : Nat) : Option Binary64 := ofRatio false n 1

def magnitude (x : Binary64) : Nat × Nat :=
  let p := twoPow x.exponent
  (x.significand * p.1, p.2)

def mul? (x y : Binary64) : Option Binary64 :=
  let a := x.magnitude
  let b := y.magnitude
  ofRatio (x.negative != y.negative) (a.1 * b.1) (a.2 * b.2)

def div? (x y : Binary64) : Option Binary64 :=
  let a := x.magnitude
  let b := y.magnitude
  ofRatio (x.negative != y.negative) (a.1 * b.2) (a.2 * b.1)

def tenPow? (n : Nat) : Option Binary64 := ofNat? (Nat.pow 10 n)

def withSign (negative : Bool) (x : Binary64) : Binary64 := { x with negative }

end Binary64

end Folio
