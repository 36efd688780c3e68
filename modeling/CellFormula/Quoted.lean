/-! # Quoted text

A text in a formula stands between double quotes, and a quote inside it is written twice.
-/

namespace CellFormula.Quoted

/-- Write every quote twice. -/
def encode : List Char → List Char
  | [] => []
  | c :: cs => if c = '"' then '"' :: '"' :: encode cs else c :: encode cs

/-- The quoted form of a text. -/
def quote (s : String) : String :=
  String.ofList ('"' :: (encode s.toList ++ ['"']))

/-- Read a text behind its opening quote: the text, and the number of characters up to its closing
quote and with it. There is none if the closing quote is missing. -/
def scan : List Char → Option (List Char × Nat)
  | [] => none
  | '"' :: '"' :: cs => (scan cs).map fun (s, n) => ('"' :: s, n + 2)
  | '"' :: _ => some ([], 1)
  | c :: cs => (scan cs).map fun (s, n) => (c :: s, n + 1)

end CellFormula.Quoted
