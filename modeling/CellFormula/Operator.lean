/-! # Operators -/

namespace CellFormula

inductive Arithmetic where
  | add
  | subtract
  | multiply
  | divide
  | power
deriving DecidableEq, Repr

inductive Comparison where
  | equal
  | notEqual
  | less
  | lessEqual
  | greater
  | greaterEqual
deriving DecidableEq, Repr

/-- An operator between two operands. -/
inductive Operator where
  | arithmetic (op : Arithmetic)
  | concat
  | comparison (op : Comparison)
deriving DecidableEq, Repr

/-- A sign in front of an operand. -/
inductive Sign where
  | minus
  | plus
deriving DecidableEq, Repr

namespace Arithmetic

def all : List Arithmetic :=
  [add, subtract, multiply, divide, power]

def symbol : Arithmetic → String
  | add => "+"
  | subtract => "-"
  | multiply => "*"
  | divide => "/"
  | power => "^"

end Arithmetic

namespace Comparison

def all : List Comparison :=
  [equal, notEqual, less, lessEqual, greater, greaterEqual]

def symbol : Comparison → String
  | equal => "="
  | notEqual => "<>"
  | less => "<"
  | lessEqual => "<="
  | greater => ">"
  | greaterEqual => ">="

/-- Whether the comparison holds of operands in the given order. -/
def holds : Comparison → Ordering → Bool
  | equal, order => order.isEq
  | notEqual, order => order.isNe
  | less, order => order.isLT
  | lessEqual, order => order.isLE
  | greater, order => order.isGT
  | greaterEqual, order => order.isGE

end Comparison

namespace Operator

def all : List Operator :=
  Arithmetic.all.map arithmetic ++ concat :: Comparison.all.map comparison

def symbol : Operator → String
  | arithmetic op => op.symbol
  | concat => "&"
  | comparison op => op.symbol

def isComparison : Operator → Bool
  | comparison _ => true
  | _ => false

/-- Operators of a higher tier bind tighter. Within a tier they associate to the left. -/
def tier : Operator → Nat
  | comparison _ => 1
  | concat => 2
  | arithmetic .add => 3
  | arithmetic .subtract => 3
  | arithmetic .multiply => 4
  | arithmetic .divide => 4
  | arithmetic .power => 5

/-- The sign that is written like the operator. -/
def sign? : Operator → Option Sign
  | arithmetic .add => some .plus
  | arithmetic .subtract => some .minus
  | _ => none

end Operator

end CellFormula
