import CellFormula.Operator
import CellFormula.Value.Basic

/-! # Formula expressions -/

namespace CellFormula

inductive Expr where
  | literal (v : Value)
  | unary (sign : Sign) (operand : Expr)
  | binary (op : Operator) (left right : Expr)
  | array (elements : List Expr)
  | group (inner : Expr)

end CellFormula
