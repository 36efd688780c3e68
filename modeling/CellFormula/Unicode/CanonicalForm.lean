import CellFormula.Unicode.CombiningClass
import CellFormula.Unicode.Decomposition

/-! # Canonical decomposed form of a text

Every character is replaced by its parts, and then each run of marks is put in the order of
their combining classes, marks of one class keeping theirs.
-/

namespace CellFormula.Unicode

/-- A Hangul syllable is a leading consonant, a vowel and possibly a trailing consonant; the
syllables are numbered in that order. -/
def hangulParts? (n : Nat) : Option (List Nat) :=
  if n < 0xAC00 then none
  else if 0xD7A3 < n then none
  else
    let index := n - 0xAC00
    let lead := 0x1100 + index / 588
    let vowel := 0x1161 + index % 588 / 28
    let trail := index % 28
    some (if trail = 0 then [lead, vowel] else [lead, vowel, 0x11A7 + trail])

/-- The parts of one character; a character without a decomposition is its own only part. -/
def decompose (c : Char) : List Char :=
  match hangulParts? c.toNat with
  | some parts => parts.map Char.ofNat
  | none =>
    match decompositionIn? c.toNat decompositions with
    | some parts => parts.map Char.ofNat
    | none => [c]

/-- Put a character in front of a text, moving it past the marks of a lower nonzero class. A
character of class zero stays in front. -/
def insertByClass (c : Char) : List Char → List Char
  | [] => [c]
  | d :: rest =>
    if combiningClass d ≠ 0 ∧ combiningClass d < combiningClass c then
      d :: insertByClass c rest
    else
      c :: d :: rest

/-- Stable order of every run of marks by combining class. -/
def reorder (cs : List Char) : List Char :=
  cs.foldr insertByClass []

/-- The canonical decomposed form. -/
def canonicalForm (cs : List Char) : List Char :=
  reorder (cs.flatMap decompose)

end CellFormula.Unicode
