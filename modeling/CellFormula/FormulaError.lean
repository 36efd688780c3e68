/-! # Formulas that cannot be read

These are failures of the text of a formula. Error values are results and not among them.
-/

namespace CellFormula

/-- Why a text has no next token. -/
inductive LexFault where
  /-- A quote opens a text that is never closed. -/
  | unterminatedString
  /-- No token starts with the character. -/
  | unexpectedCharacter
  /-- A word other than TRUE and FALSE. -/
  | unknownIdentifier
  /-- A word behind a number sign that is no error literal. -/
  | unknownError
  /-- A number without the digits of its exponent, or out of range. -/
  | malformedNumber
deriving DecidableEq, Repr

/-- A fault, the characters at fault and the byte offset of the first of them. -/
structure LexError where
  fault : LexFault
  found : String
  position : Nat
deriving DecidableEq, Repr

/-- Why a sequence of tokens is no formula. -/
inductive ParseError where
  /-- A token that cannot stand where it does. -/
  | unexpectedToken (found : String) (position : Nat)
  /-- The formula ends too early. -/
  | unexpectedEnd
  /-- Parentheses, braces and signs are nested too deeply. -/
  | nestingTooDeep (position : Nat)
deriving DecidableEq, Repr

inductive FormulaError where
  | lex (e : LexError)
  | parse (e : ParseError)
deriving DecidableEq, Repr

/-- The words around the characters at fault. -/
def quotedAt (what found : String) (position : Nat) : String :=
  what ++ " '" ++ found ++ "' at position " ++ position.repr

def LexError.message (e : LexError) : String :=
  match e.fault with
  | .unterminatedString => "Unterminated string starting at position " ++ e.position.repr
  | .unexpectedCharacter => quotedAt "Unexpected character" e.found e.position
  | .unknownIdentifier => quotedAt "Unknown identifier" e.found e.position
  | .unknownError => quotedAt "Unknown error literal" e.found e.position
  | .malformedNumber => quotedAt "Malformed number" e.found e.position

def ParseError.message : ParseError → String
  | unexpectedToken found position => quotedAt "Unexpected token" found position
  | unexpectedEnd => "Unexpected end of formula"
  | nestingTooDeep position => "Formula nested too deeply at position " ++ position.repr

namespace FormulaError

/-- What went wrong, without the stage at which it did. -/
def cause : FormulaError → String
  | lex e => e.message
  | parse e => e.message

def message : FormulaError → String
  | lex e => "Lex error: " ++ e.message
  | parse e => "Parse error: " ++ e.message

/-- The byte offset at which the formula went wrong; a formula that ends too early has none. -/
def position? : FormulaError → Option Nat
  | lex e => some e.position
  | parse (.unexpectedToken _ position) => some position
  | parse (.nestingTooDeep position) => some position
  | parse .unexpectedEnd => none

end FormulaError

end CellFormula
