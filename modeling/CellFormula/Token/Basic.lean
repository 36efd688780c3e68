import CellFormula.FormulaError
import CellFormula.Operator
import CellFormula.Value.Display

/-! # Tokens of formulas -/

namespace CellFormula

inductive TokenKind where
  | literal (s : Scalar)
  | operator (op : Operator)
  | leftParen
  | rightParen
  | leftBrace
  | rightBrace
  | comma
deriving DecidableEq

/-- A token with the characters it was read from and their byte offset. -/
structure Token where
  kind : TokenKind
  text : String
  position : Nat
deriving DecidableEq

/-- What reading the next token gives: the token, or the error that ends the formula. -/
abbrev TokenItem := Except LexError Token

/-- Numbers in listings of tokens: always positional, a halfway case upwards. -/
def tokenNumber : NumberStyle where
  tie := .up
  isPositional _ := true
  wholePoint := false
  signedZero := true

/-- The form of a token in a listing. A text stands between quotes as it is. -/
def TokenKind.display : TokenKind → String
  | literal (.number x) => tokenNumber.write x
  | literal (.text s) => "\"" ++ s ++ "\""
  | literal (.boolean b) => booleanText b
  | literal (.error kind) => kind.literal
  | operator op => op.symbol
  | leftParen => "("
  | rightParen => ")"
  | leftBrace => "\x7b"
  | rightBrace => "\x7d"
  | comma => ","

end CellFormula
