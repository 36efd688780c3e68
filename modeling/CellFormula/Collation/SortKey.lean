import CellFormula.Unicode.Alphabetic
import CellFormula.Unicode.CanonicalForm
import CellFormula.Unicode.Case
import CellFormula.Unicode.Mark
import CellFormula.Unicode.Numeric
import CellFormula.Unicode.WhiteSpace

/-! # Sort keys of texts

A text is brought to its canonical decomposed form, in which an accented letter is a base
character followed by marks. Its key has three levels: the base characters without case, the marks
that follow each of them, and the case of each of them.
-/

namespace CellFormula.Collation

/-- Classes of base characters in ascending order. -/
inductive Class where
  | whiteSpace
  | punctuation
  | symbol
  | digit
  | letter
deriving DecidableEq, Repr

def Class.rank : Class → Nat
  | whiteSpace => 0
  | punctuation => 1
  | symbol => 2
  | digit => 3
  | letter => 4

/-- The weight of a base character: its class, and its place in the class. -/
structure Weight where
  kind : Class
  place : Nat
deriving DecidableEq, Repr

instance : Ord Weight where
  compare a b := (compare a.kind.rank b.kind.rank).then (compare a.place b.place)

/-- Punctuation in ascending order. -/
def punctuation : List Char :=
  "_-,;:!?.'\"()[]\x7b\x7d@*/\\&#%`^+<=>|~$".toList

/-- The weight of a character on the first level. Letters are taken without case; numbers other
than the ten digits come after these. -/
def weight (c : Char) : Weight :=
  if Unicode.isWhiteSpace c || Unicode.isControl c then ⟨.whiteSpace, c.toNat⟩
  else
    match punctuation.idxOf? c with
    | some i => ⟨.punctuation, i⟩
    | none =>
      if c.isDigit then ⟨.digit, c.toNat - '0'.toNat⟩
      else if Unicode.isNumeric c then ⟨.digit, 10 + c.toNat⟩
      else if Unicode.isAlphabetic c then ⟨.letter, (Unicode.lowercase c).toNat⟩
      else ⟨.symbol, c.toNat⟩

/-- A part of a text as it enters the key. -/
inductive Element where
  | base (c : Char)
  | mark (c : Char)
deriving DecidableEq, Repr

/-- Letters that have no decomposition but sort like other letters: the letters they sort like,
and the stroke that tells them apart from these. -/
def expansion? : Char → Option (List Char × Option Char)
  | 'ß' => some (['s', 's'], none)
  | 'æ' => some (['a', 'e'], none)
  | 'Æ' => some (['A', 'E'], none)
  | 'œ' => some (['o', 'e'], none)
  | 'Œ' => some (['O', 'E'], none)
  | 'ø' => some (['o'], some '\u0338')
  | 'Ø' => some (['O'], some '\u0338')
  | 'ł' => some (['l'], some '\u0335')
  | 'Ł' => some (['L'], some '\u0335')
  | 'đ' => some (['d'], some '\u0335')
  | 'Đ' => some (['D'], some '\u0335')
  | 'ħ' => some (['h'], some '\u0335')
  | 'Ħ' => some (['H'], some '\u0335')
  | _ => none

/-- The elements of a character that is not a mark on another. -/
def baseElements (c : Char) : List Element :=
  match expansion? c with
  | some (bases, stroke) => bases.map .base ++ stroke.toList.map .mark
  | none => [.base c]

/-- The elements of a character behind the first one. -/
def elementsOf (c : Char) : List Element :=
  if Unicode.isMark c then [.mark c] else baseElements c

/-- The elements of a decomposed text. A mark at its head has nothing to belong to and counts as a
base character. -/
def elements : List Char → List Element
  | [] => []
  | c :: cs => baseElements c ++ cs.flatMap elementsOf

def Element.weight? : Element → Option Weight
  | base c => some (weight c)
  | mark _ => none

/-- On the second level zero stands for a base character, and a code point for a mark. -/
def Element.accent : Element → Nat
  | base _ => 0
  | mark c => c.toNat

/-- On the third level a capital letter is one, and every other base character zero. -/
def Element.case? : Element → Option Nat
  | base c => some (if Unicode.isUppercase c then 1 else 0)
  | mark _ => none

/-- The key of a text, one sequence for each level. -/
structure SortKey where
  primary : List Weight
  secondary : List Nat
  tertiary : List Nat
deriving DecidableEq, Repr

def SortKey.ofElements (es : List Element) : SortKey where
  primary := es.filterMap Element.weight?
  secondary := es.map Element.accent
  tertiary := es.filterMap Element.case?

def sortKey (s : String) : SortKey :=
  .ofElements (elements (Unicode.canonicalForm s.toList))

end CellFormula.Collation
