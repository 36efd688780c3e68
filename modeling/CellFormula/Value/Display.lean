import CellFormula.Decimal.Text
import CellFormula.Quoted
import CellFormula.Value.Basic

/-! # How values are shown -/

namespace CellFormula

/-- Numbers in cells and in joined texts: positional from `1e-6` up to `1e21`, whole numbers
without a point, a halfway case upwards, and zero without a sign. -/
def cellNumber : NumberStyle where
  tie := .up
  isPositional e := decide (-6 ≤ e) && decide (e < 21)
  wholePoint := false
  signedZero := false

def booleanText (b : Bool) : String :=
  if b then "TRUE" else "FALSE"

/-- The form of a scalar inside a list: text is quoted. -/
def Scalar.inList : Scalar → String
  | number x => cellNumber.write x
  | text s => Quoted.quote s
  | boolean b => booleanText b
  | error kind => kind.literal

namespace Value

mutual

/-- The form of a value inside a list. -/
def inList : Value → String
  | scalar s => s.inList
  | list items => "\x7b" ++ ",".intercalate (inListEach items) ++ "\x7d"

def inListEach : List Value → List String
  | [] => []
  | item :: rest => item.inList :: inListEach rest

end

/-- The form of a value in a cell: as inside a list, but a text stands by itself. -/
def display : Value → String
  | text s => s
  | v => v.inList

end Value

end CellFormula
