import CellFormula.Unicode.Printable

/-! # Texts with escapes

A text in a listing stands between quotes on one line. Characters that could not be told apart by
their look are written by their code points.
-/

namespace CellFormula.Escaped

/-- The code point of a character in hexadecimal, between braces. -/
def codePoint (c : Char) : List Char :=
  '\\' :: 'u' :: '\x7b' :: (Nat.toDigits 16 c.toNat ++ ['\x7d'])

def escape (c : Char) : List Char :=
  if c = '\x00' then ['\\', '0']
  else if c = '\t' then ['\\', 't']
  else if c = '\n' then ['\\', 'n']
  else if c = '\r' then ['\\', 'r']
  else if c = '"' then ['\\', '"']
  else if c = '\\' then ['\\', '\\']
  else if Unicode.isExtendingMark c || !Unicode.isPrintable c then codePoint c
  else [c]

/-- The escaped text between quotes. -/
def quote (s : String) : String :=
  String.ofList ('"' :: (s.toList.flatMap escape ++ ['"']))

end CellFormula.Escaped
