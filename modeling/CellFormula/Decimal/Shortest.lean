import CellFormula.Decimal.Basic

/-! # The shortest decimal that reads back

Decimals with the exponent `k` form a grid. A binary number lies between two neighbours on every
grid, and the coarsest grid on which one of the two reads back gives the decimal with the fewest
digits. If both read back the nearer one is taken.
-/

namespace CellFormula.Decimal

/-- Which of two neighbours is taken when the number lies halfway between them. -/
inductive Tie where
  | up
  | even
deriving DecidableEq, Repr

/-- Whether a number between `q` and `q + 1` goes to `q`, given twice its distance from `q` in
units of `1 / d`. -/
def Tie.goesDown (tie : Tie) (q twice d : Nat) : Bool :=
  match compare twice d with
  | .lt => true
  | .gt => false
  | .eq =>
    match tie with
    | .up => false
    | .even => q % 2 == 0

/-- The decimal with the exponent `k` that reads back as the number of the given rank, if there is
one among its two neighbours. -/
def onGrid? (tie : Tie) (rank : Nat) (k : Int) : Option Decimal :=
  let n := Binary64.units rank * Nat.pow 10 (-k).toNat
  let d := Binary64.unitsPerOne * Nat.pow 10 k.toNat
  let below : Decimal := ⟨n / d, k⟩
  let above : Decimal := ⟨n / d + 1, k⟩
  if below.rank = rank then
    if above.rank = rank then
      some (if tie.goesDown (n / d) (2 * (n % d)) d then below else above)
    else some below
  else if above.rank = rank then some above
  else none

/-- The number of the given rank itself. -/
def exact (rank : Nat) : Decimal :=
  ⟨Binary64.units rank * Nat.pow 5 1074, -1074⟩

/-- Try the grids from the exponent `k` downwards. -/
def fromGrid (tie : Tie) (rank : Nat) : Nat → Int → Decimal
  | 0, _ => exact rank
  | steps + 1, k =>
    match onGrid? tie rank k with
    | some d => d
    | none => fromGrid tie rank steps (k - 1)

/-- An exponent with `10 ^ topExponent` above the number of the given rank: its binary digits are
counted, and each is worth a little more than `0.301` decimal ones. -/
def topExponent (rank : Nat) : Int :=
  (((Binary64.units rank).log2 : Int) - 1073) * 30103 / 100000 + 2

/-- The decimal with the fewest digits that reads back as the number of the given rank. Seventeen
digits always suffice, and the search starts at most four grids above the first digit. -/
def shortest (tie : Tie) (rank : Nat) : Decimal :=
  if rank = 0 then ⟨0, 0⟩ else fromGrid tie rank 24 (topExponent rank)

end CellFormula.Decimal
