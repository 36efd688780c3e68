import CellFormula.Coercion
import CellFormula.Collation.Order

/-! # Comparison of values

All comparisons are answered from one three-way order. Numbers come before texts, and texts before
booleans.
-/

namespace CellFormula

/-- The order of two numbers. A number that is not one counts as equal to every other. -/
def compareNumbers (x y : Float) : Ordering :=
  if x < y then .lt else if y < x then .gt else .eq

def compareBooleans : Bool → Bool → Ordering
  | false, true => .lt
  | true, false => .gt
  | _, _ => .eq

namespace Scalar

/-- The order of two scalars. Errors have no place in it, and the one on the left comes first. -/
def compare : Scalar → Scalar → Except ErrorKind Ordering
  | error kind, _ => .error kind
  | _, error kind => .error kind
  | number x, number y => .ok (compareNumbers x y)
  | number _, _ => .ok .lt
  | text _, number _ => .ok .gt
  | text s, text t => .ok (Collation.collate s t)
  | text _, boolean _ => .ok .lt
  | boolean a, boolean b => .ok (compareBooleans a b)
  | boolean _, _ => .ok .gt

end Scalar

namespace Value

/-- Both values are reduced to their first scalars before these are compared. -/
def compare (left right : Value) : Except ErrorKind Ordering := do
  let s ← left.firstScalar
  let t ← right.firstScalar
  s.compare t

end Value

def Comparison.apply (op : Comparison) (left right : Value) : Value :=
  .ofResult do
    let order ← left.compare right
    return .boolean (op.holds order)

end CellFormula
