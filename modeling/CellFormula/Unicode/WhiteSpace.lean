import CellFormula.Unicode.RangeSet

/-! # White space and control characters -/

namespace CellFormula.Unicode

/-- The property White_Space. -/
def whiteSpace : RangeSet where
  ranges := [
    (0x09, 0x0D), (0x20, 0x20), (0x85, 0x85), (0xA0, 0xA0), (0x1680, 0x1680), (0x2000, 0x200A),
    (0x2028, 0x2029), (0x202F, 0x202F), (0x205F, 0x205F), (0x3000, 0x3000)]

/-- Blanks may stand around and between the tokens of a formula. -/
def isWhiteSpace (c : Char) : Bool :=
  whiteSpace.contains c

/-- The general category Cc. -/
def control : RangeSet where
  ranges := [
    (0x00, 0x1F), (0x7F, 0x9F)]

def isControl (c : Char) : Bool :=
  control.contains c

end CellFormula.Unicode
