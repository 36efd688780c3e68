import CellFormula.Decimal.Numeral
import CellFormula.Operator
import CellFormula.Value.Display

/-! # Coercion of operands, arithmetic and concatenation

Every operator brings its operands to the type that it needs. A list used as an operand stands for
its first element. What cannot be coerced yields an error value.
-/

namespace CellFormula

namespace Value

/-- The scalar that a value stands for: the first element of a list, however deep it lies. An
empty list has none. -/
def firstScalar : Value → Except ErrorKind Scalar
  | scalar s => .ok s
  | list [] => .error .value
  | list (item :: _) => item.firstScalar

end Value

namespace Scalar

def toNumber : Scalar → Except ErrorKind Float
  | number x => .ok x
  | text s =>
    match Numeral.ofText? s with
    | some x => .ok x
    | none => .error .value
  | boolean b => .ok (if b then 1 else 0)
  | error kind => .error kind

def toText : Scalar → Except ErrorKind String
  | number x => .ok (cellNumber.write x)
  | text s => .ok s
  | boolean b => .ok (booleanText b)
  | error kind => .error kind

end Scalar

namespace Value

def toNumber (v : Value) : Except ErrorKind Float :=
  v.firstScalar.bind Scalar.toNumber

def toText (v : Value) : Except ErrorKind String :=
  v.firstScalar.bind Scalar.toText

/-- The value of a coercion, or the error that it met. -/
def ofResult : Except ErrorKind Value → Value
  | .ok v => v
  | .error kind => error kind

/-- A computed number as a value. Adding zero leaves every number as it is, but turns negative
zero into zero. -/
def ofNumber (x : Float) : Value :=
  if x.isFinite then number (x + 0) else error .num

end Value

namespace Arithmetic

/-- A power of zero is zero for a positive exponent, and an error for the others. -/
def applyPower (base exponent : Float) : Value :=
  if base == 0 then
    if exponent == 0 then .error .num
    else if exponent < 0 then .error .div0
    else .number 0
  else
    .ofNumber (base ^ exponent)

def applyNumbers (op : Arithmetic) (x y : Float) : Value :=
  match op with
  | add => .ofNumber (x + y)
  | subtract => .ofNumber (x - y)
  | multiply => .ofNumber (x * y)
  | divide => if y == 0 then .error .div0 else .ofNumber (x / y)
  | power => applyPower x y

/-- Both operands are coerced to numbers; an error on the left comes before one on the right. -/
def apply (op : Arithmetic) (left right : Value) : Value :=
  .ofResult do
    let x ← left.toNumber
    let y ← right.toNumber
    return op.applyNumbers x y

end Arithmetic

namespace Value

/-- Join the texts of two values; an error on the left comes before one on the right. -/
def concat (left right : Value) : Value :=
  ofResult do
    let s ← left.toText
    let t ← right.toText
    return text (s ++ t)

/-- The sign `-`: the number with its sign changed. -/
def negate (v : Value) : Value :=
  ofResult do
    let x ← v.toNumber
    return ofNumber (-x)

/-- The sign `+`: the scalar itself, whatever its type. -/
def identity (v : Value) : Value :=
  ofResult do
    let s ← v.firstScalar
    return scalar s

end Value

def Sign.apply : Sign → Value → Value
  | minus, v => v.negate
  | plus, v => v.identity

end CellFormula
