import CellFormula.Decimal.Basic
import CellFormula.Unicode.Numeric
import CellFormula.Unicode.WhiteSpace

/-! # Numerals

A numeral is a row of digits with an optional point, before or behind which digits may be missing
but not both, and an optional power of ten: `1`, `1.5`, `.5`, `1.`, `1e10`, `2.5E-3`.
-/

namespace CellFormula.Numeral

/-- What stands at the head of a text that starts like a numeral. -/
structure Scan where
  /-- The number of characters taken. -/
  length : Nat
  /-- The number, unless the digits of its power of ten are missing. -/
  decimal? : Option Decimal
deriving DecidableEq, Repr

/-- A numeral starts with a digit, or with a point and a digit. -/
def starts : List Char → Bool
  | [] => false
  | c :: cs => c.isDigit || (c == '.' && cs.head?.any Char.isDigit)

/-- The characters taken by a point and the digits behind it, and those digits. -/
def scanFraction : List Char → Nat × List Char
  | '.' :: cs => ((cs.takeWhile Char.isDigit).length + 1, cs.takeWhile Char.isDigit)
  | _ => (0, [])

/-- Whether a sign is written, and whether it is negative. -/
def scanSign : List Char → Nat × Bool
  | '+' :: _ => (1, false)
  | '-' :: _ => (1, true)
  | _ => (0, false)

/-- The characters taken by a power of ten, and its exponent unless its digits are missing. No
power of ten is the exponent zero. -/
def scanExponent : List Char → Nat × Option Int
  | [] => (0, some 0)
  | c :: cs =>
    if c = 'e' ∨ c = 'E' then
      let sign := scanSign cs
      let ds := (cs.drop sign.1).takeWhile Char.isDigit
      let n : Int := Nat.ofDigitChars 10 ds 0
      (1 + sign.1 + ds.length, if ds.isEmpty then none else some (if sign.2 then -n else n))
    else
      (0, some 0)

/-- Take the longest numeral at the head of a text. -/
def scan (cs : List Char) : Scan :=
  let whole := cs.takeWhile Char.isDigit
  let fraction := scanFraction (cs.drop whole.length)
  let exponent := scanExponent (cs.drop (whole.length + fraction.1))
  { length := whole.length + fraction.1 + exponent.1
    decimal? := exponent.2.map fun e =>
      ⟨Nat.ofDigitChars 10 (whole ++ fraction.2) 0, e - fraction.2.length⟩ }

theorem length_scan (cs : List Char) :
    (scan cs).length =
      (cs.takeWhile Char.isDigit).length +
        (scanFraction (cs.drop (cs.takeWhile Char.isDigit).length)).1 +
        (scanExponent (cs.drop ((cs.takeWhile Char.isDigit).length +
          (scanFraction (cs.drop (cs.takeWhile Char.isDigit).length)).1))).1 :=
  rfl

/-- A numeral takes at least one character. -/
theorem scan_length_pos {cs : List Char} (h : starts cs = true) : 0 < (scan cs).length := by
  cases cs with
  | nil => exact absurd h Bool.false_ne_true
  | cons c cs =>
      cases hc : c.isDigit with
      | true =>
          have hwhole : 0 < ((c :: cs).takeWhile Char.isDigit).length := by
            rw [List.takeWhile_cons_of_pos hc]
            exact Nat.succ_pos _
          rw [length_scan]
          omega
      | false =>
          simp only [starts, hc, Bool.false_or, Bool.and_eq_true, beq_iff_eq] at h
          obtain ⟨rfl, -⟩ := h
          have hfraction : 0 < (scanFraction ('.' :: cs)).1 := Nat.succ_pos _
          rw [length_scan, List.takeWhile_cons_of_neg (by decide)]
          simp only [List.length_nil, List.drop_zero]
          omega

/-- The number written by a text that is a numeral from end to end and in range. -/
def read? (negative : Bool) (cs : List Char) : Option Float :=
  if starts cs && (scan cs).length == cs.length then
    (scan cs).decimal?.bind (Decimal.toFloat? negative)
  else
    none

/-- Drop the white space on both sides. -/
def trim (cs : List Char) : List Char :=
  ((cs.dropWhile Unicode.isWhiteSpace).reverse.dropWhile Unicode.isWhiteSpace).reverse

/-- Whether a text is empty or looks like a power of ten, in digits of any script. -/
def isPowerShaped : List Char → Bool
  | [] => true
  | c :: cs =>
    let ds := cs.drop (scanSign cs).1
    (c == 'e' || c == 'E') && !ds.isEmpty && ds.all Unicode.isDecimalDigit

/-- Whether a text looks like a numeral with an optional sign, in digits of any script. -/
def isShaped (cs : List Char) : Bool :=
  let body := cs.drop (scanSign cs).1
  let whole := body.takeWhile Unicode.isDecimalDigit
  match body.drop whole.length with
  | '.' :: rest =>
    let fraction := rest.takeWhile Unicode.isDecimalDigit
    !(whole ++ fraction).isEmpty && isPowerShaped (rest.drop fraction.length)
  | rest => !whole.isEmpty && isPowerShaped rest

/-- The number written by a text: a numeral with an optional sign, between optional white space.
The digits of other scripts have the shape of a number but write none. -/
def ofText? (text : String) : Option Float :=
  let cs := trim text.toList
  let sign := scanSign cs
  if isShaped cs then read? sign.2 (cs.drop sign.1) else none

end CellFormula.Numeral
