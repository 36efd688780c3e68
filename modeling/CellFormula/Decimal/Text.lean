import CellFormula.Decimal.Shortest

/-! # The text of a number -/

namespace CellFormula

namespace Decimal

def digits (d : Decimal) : List Char :=
  Nat.toDigits 10 d.coefficient

/-- The power of ten of the first digit. -/
def leadingExponent (d : Decimal) : Int :=
  d.exponent + d.digits.length - 1

/-- All digits in their places, with a point if some stand behind it. -/
def positional (d : Decimal) : List Char :=
  let ds := d.digits
  if 0 ≤ d.exponent then
    ds ++ List.replicate d.exponent.toNat '0'
  else
    let places := (-d.exponent).toNat
    if places < ds.length then
      ds.take (ds.length - places) ++ '.' :: ds.drop (ds.length - places)
    else
      '0' :: '.' :: (List.replicate (places - ds.length) '0' ++ ds)

/-- One digit before the point, and the power of ten with its sign. -/
def scientific (d : Decimal) : List Char :=
  let mantissa :=
    match d.digits with
    | first :: second :: rest => first :: '.' :: second :: rest
    | ds => ds
  let e := d.leadingExponent
  mantissa ++ 'e' :: (if e < 0 then '-' else '+') :: Nat.toDigits 10 e.natAbs

end Decimal

/-- How numbers are written. All styles take the shortest decimal that reads back. -/
structure NumberStyle where
  /-- The neighbour taken when two shortest decimals are equally near. -/
  tie : Decimal.Tie
  /-- The leading exponents that are written positionally. -/
  isPositional : Int → Bool
  /-- Whether `.0` follows a whole number that is written positionally. -/
  wholePoint : Bool
  /-- Whether negative zero keeps its sign. -/
  signedZero : Bool

namespace NumberStyle

/-- The text of a decimal. -/
def writeDecimal (style : NumberStyle) (d : Decimal) : List Char :=
  if style.isPositional d.leadingExponent then
    d.positional ++ (if style.wholePoint && decide (0 ≤ d.exponent) then ['.', '0'] else [])
  else
    d.scientific

/-- The text of a finite number. -/
def write (style : NumberStyle) (x : Float) : String :=
  let rank := Binary64.rankOf x
  let body := style.writeDecimal (Decimal.shortest style.tie rank)
  if Binary64.isNegative x && (style.signedZero || rank != 0) then
    String.ofList ('-' :: body)
  else
    String.ofList body

end NumberStyle

end CellFormula
