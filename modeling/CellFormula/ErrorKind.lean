/-! # Error values

These are ordinary results of a calculation. A formula can also name them, by their literals.
-/

namespace CellFormula

inductive ErrorKind where
  | null
  | div0
  | value
  | ref
  | name
  | num
  | na
deriving DecidableEq, Repr

namespace ErrorKind

/-- All kinds in the order of their error codes. -/
def all : List ErrorKind :=
  [null, div0, value, ref, name, num, na]

/-- The literal that stands for the error in a formula and in a cell. -/
def literal : ErrorKind → String
  | null => "#NULL!"
  | div0 => "#DIV/0!"
  | value => "#VALUE!"
  | ref => "#REF!"
  | name => "#NAME?"
  | num => "#NUM!"
  | na => "#N/A"

/-- The name used in tagged results. -/
def code : ErrorKind → String
  | null => "NULL"
  | div0 => "DIV0"
  | value => "VALUE"
  | ref => "REF"
  | name => "NAME"
  | num => "NUM"
  | na => "NA"

/-- Whether a text starts with a word, small and capital letters of ASCII alike. -/
def startsWithFolded : List Char → List Char → Bool
  | [], _ => true
  | _ :: _, [] => false
  | w :: ws, c :: cs => w.toUpper == c.toUpper && startsWithFolded ws cs

/-- The error whose literal stands at the head of a text. -/
def atHead? (cs : List Char) : Option ErrorKind :=
  all.find? fun kind => startsWithFolded kind.literal.toList cs

end ErrorKind

end CellFormula
