import CellFormula.Binary64

/-! # Decimal numbers and the binary numbers nearest to them -/

namespace CellFormula

/-- The number `coefficient * 10 ^ exponent`. -/
structure Decimal where
  coefficient : Nat
  exponent : Int
deriving DecidableEq, Repr

namespace Decimal

/-- Above the fraction bar when the number is written as a fraction of natural numbers. -/
def numerator (d : Decimal) : Nat :=
  d.coefficient * Nat.pow 10 d.exponent.toNat

/-- Below the fraction bar. -/
def denominator (d : Decimal) : Nat :=
  Nat.pow 10 (-d.exponent).toNat

/-- The rank of the binary number nearest to the decimal. Exponents far out of the range of the
format are answered without computing their power of ten: the first test covers numbers below
`10 ^ -400`, and the second covers those from `10 ^ 400` on. -/
def rank (d : Decimal) : Nat :=
  if d.coefficient = 0 ∨ d.exponent + d.coefficient.log2 < -400 then 0
  else if 400 ≤ d.exponent then Binary64.infinity
  else Binary64.nearest d.numerator d.denominator

/-- The floating point number nearest to the decimal, unless it is out of range. -/
def toFloat? (negative : Bool) (d : Decimal) : Option Float :=
  if d.rank < Binary64.infinity then some (Binary64.toFloat negative d.rank) else none

end Decimal

end CellFormula
