/-! # Binary floating point numbers by rank

The finite nonnegative numbers of the 64-bit format, in ascending order, have the bit patterns
`0`, `1`, `2`, … below `infinity`. The bit pattern is called the rank of the number. All of these
numbers are multiples of `2 ^ -1074`, so that exact arithmetic on them is arithmetic on `Nat`.
-/

namespace CellFormula.Binary64

/-- The number of ranks from one power of two up to the next. -/
def binade : Nat := Nat.pow 2 52

/-- The number of units of `2 ^ -1074` in one. -/
def unitsPerOne : Nat := Nat.pow 2 1074

/-- The rank just above the finite numbers. -/
def infinity : Nat := 2047 * binade

/-- The bit pattern of a negative number is that of its absolute value and this. -/
def signBit : Nat := Nat.pow 2 63

def significand (rank : Nat) : Nat :=
  if rank < binade then rank else binade + rank % binade

def scale (rank : Nat) : Nat :=
  rank / binade - 1

/-- The number of the given rank, counted in units of `2 ^ -1074`. -/
def units (rank : Nat) : Nat :=
  significand rank * Nat.pow 2 (scale rank)

/-- The integer nearest to `n / d`; halfway, the even one. -/
def divNearestEven (n d : Nat) : Nat :=
  let q := n / d
  let twice := 2 * (n % d)
  if twice < d then q else if d < twice then q + 1 else q + q % 2

/-- The rank of the number nearest to `n / d`; halfway, the one with the even significand. What
rounds beyond the finite numbers has rank `infinity` or more.

The quotient keeps at most 53 binary digits, none of them worth less than one unit. When the
rounded significand reaches `2 ^ 53` it carries into the scale by itself, because ranks ascend
through the powers of two. -/
def nearest (n d : Nat) : Nat :=
  let total := n * unitsPerOne
  let shift := (total / d).log2 - 52
  shift * binade + divNearestEven total (d * Nat.pow 2 shift)

/-- The floating point number of a sign and a rank. -/
def toFloat (negative : Bool) (rank : Nat) : Float :=
  Float.ofBits (UInt64.ofNat (if negative then signBit + rank else rank))

def isNegative (x : Float) : Bool :=
  decide (signBit ≤ x.toBits.toNat)

/-- The rank of the absolute value. -/
def rankOf (x : Float) : Nat :=
  x.toBits.toNat % signBit

end CellFormula.Binary64
