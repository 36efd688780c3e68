import CellFormula.Expr.Evaluation
import CellFormula.Expr.Parser
import CellFormula.Tagged
import CellFormula.Token.Stream

/-! # Formulas -/

namespace CellFormula.Formula

/-- The expression that a formula writes. -/
def parse (source : String) : Except FormulaError Expr :=
  Expr.parse (tokenize source)

/-- The value of a formula. -/
def calculate (source : String) : Except FormulaError Value :=
  (parse source).map Expr.evaluate

/-- The value of a formula with its tags. -/
def result (source : String) : Except FormulaError Tagged :=
  (calculate source).map Tagged.ofValue

end CellFormula.Formula
