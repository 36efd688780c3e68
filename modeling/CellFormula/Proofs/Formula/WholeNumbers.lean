import CellFormula.Proofs.Number.Whole
import CellFormula.Proofs.Value.NumberText

/-! # Formulas that print whole numbers

A number that is joined to the empty text gives its own text, and the text of a whole number within
the range of exact ones is its decimal notation.
-/

namespace CellFormula

/-! ## A number joined to the empty text -/

/-- The expression `x & ""`, with a sign before a negative number. -/
def Expr.joinedToEmpty (x : Float) : Expr :=
  .binary .concat (Scalar.number x).toExpr (.literal (.text ""))

section Plain

variable {x : Float} (h : IsPlainNumber x)
include h

theorem Expr.evaluate_joinedToEmpty :
    (joinedToEmpty x).evaluate = .text (cellNumber.write x) := by
  have hnumber : (Scalar.number x).toExpr.evaluate = .number x :=
    Value.evaluate_toExpr (v := .number x) (.scalar h)
  rw [joinedToEmpty, evaluate_binary, hnumber, evaluate_literal]
  exact concat_empty x

theorem TokenStream.lexes_joinedToEmpty :
    Lexes ((cellNumber.write x).toList ++ ['&', '"', '"']) (Expr.joinedToEmpty x).kinds [] := by
  have hnumber := Value.lexes_number h (closes_separator (c := '&') (by simp) ['"', '"'])
  have hoperator : Lexes ['&', '"', '"'] [.operator .concat] ['"', '"'] :=
    .symbol rfl (fun _ => rfl) _
  have hempty : Lexes ['"', '"'] [.literal (.text "")] [] :=
    .here (Quoted.spells_quote "") (ends_nil _)
  exact hnumber.trans (hoperator.trans hempty)

omit h in
/-- The sign binds tighter than the operator. -/
theorem Expr.isCanonical_joinedToEmpty :
    (joinedToEmpty x).isCanonical = true ∧ (joinedToEmpty x).nesting ≤ maxNesting := by
  rcases (Scalar.number x).toExpr_cases with ⟨y, -, -, hexpr, -⟩ | ⟨-, hexpr, -⟩
  · rw [joinedToEmpty, hexpr]
    exact ⟨rfl, by simp [nesting, maxNesting]⟩
  · rw [joinedToEmpty, hexpr]
    exact ⟨rfl, by simp [nesting, maxNesting]⟩

theorem Formula.calculate_joinedToEmpty :
    calculate ("=" ++ cellNumber.write x ++ "&\"\"") = .ok (.text (cellNumber.write x)) := by
  have hchars : (cellNumber.write x ++ "&\"\"").toList =
      (cellNumber.write x).toList ++ ['&', '"', '"'] := String.toList_append
  have hsource := TokenStream.ofSource_equals (cellNumber.write x ++ "&\"\"")
  rw [hchars] at hsource
  obtain ⟨hcanonical, hnesting⟩ := Expr.isCanonical_joinedToEmpty (x := x)
  rw [String.append_assoc, ← Expr.evaluate_joinedToEmpty h]
  exact (calculate_of_lexes hsource (TokenStream.lexes_joinedToEmpty h) hcanonical).1 hnesting

end Plain

/-! ## Whole numbers -/

theorem toList_toString_int (n : Int) :
    (toString n).toList = (if n < 0 then ['-'] else []) ++ Nat.toDigits 10 n.natAbs := by
  cases n with
  | ofNat n =>
      have hnonneg : ¬ Int.ofNat n < 0 := Int.not_lt.mpr (Int.natCast_nonneg n)
      rw [if_neg hnonneg]
      change (toString n).toList = _
      rw [Nat.toString_eq_ofList_toDigits, String.toList_ofList]
      rfl
  | negSucc n =>
      rw [if_pos (Int.negSucc_lt_zero n)]
      change ("-" ++ toString (n + 1)).toList = _
      rw [String.toList_append, Nat.toString_eq_ofList_toDigits]
      exact congrArg ('-' :: ·) String.toList_ofList

/-- Every whole number that fits into a significand is the number of some text: its decimal
notation. -/
theorem exists_write_whole {n : Int} (h : n.natAbs ≤ 2 ^ 53) :
    ∃ x, IsPlainNumber x ∧ cellNumber.write x = toString n := by
  have hlt := (Decimal.rank_whole h).1
  have hpos : decide (n < 0) = true → 0 < Decimal.rank ⟨n.natAbs, 0⟩ := by
    intro hneg
    have hne : n < 0 := of_decide_eq_true hneg
    exact Decimal.rank_whole_pos h (by omega)
  refine ⟨Binary64.toFloat (decide (n < 0)) (Decimal.rank ⟨n.natAbs, 0⟩),
    isPlainNumber_toFloat hlt hpos, ?_⟩
  apply String.toList_inj.mp
  rw [toList_write hlt hpos, writeDecimal_whole h, toList_toString_int]
  simp

namespace Formula

/-- A formula that joins a whole number to the empty text gives its decimal notation, for all whole
numbers up to the point where they stop being exact. -/
theorem calculate_whole_number (n : Int) (h : n.natAbs ≤ 2 ^ 53) :
    calculate ("=" ++ toString n ++ "&\"\"") = .ok (.text (toString n)) := by
  obtain ⟨x, hplain, hwrite⟩ := exists_write_whole h
  rw [← hwrite]
  exact calculate_joinedToEmpty hplain

/-- The least of these numbers. -/
theorem calculate_whole_number_least :
    (-9007199254740992 : Int).natAbs ≤ 2 ^ 53 ∧
      calculate "=-9007199254740992&\"\"" = .ok (.text "-9007199254740992") := by
  have htext : toString (-9007199254740992 : Int) = "-9007199254740992" := by decide +kernel
  have hsource : "=" ++ "-9007199254740992" ++ "&\"\"" = "=-9007199254740992&\"\"" := by decide
  have hvalue := calculate_whole_number (-9007199254740992) (by decide)
  rw [htext, hsource] at hvalue
  exact ⟨by decide, hvalue⟩

end Formula

end CellFormula
