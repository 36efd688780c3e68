import CellFormula.Expr.Basic
import CellFormula.Token.Basic

/-! # The written shape of expressions

An expression written out is a sequence of tokens. Parentheses are part of the expression, so that
only some expressions say by their tokens alone how they are put together: those in canonical
shape.
-/

namespace CellFormula

/-- The operator that is written like the sign. -/
def Sign.operator : Sign → Operator
  | minus => .arithmetic .subtract
  | plus => .arithmetic .add

namespace Expr

mutual

/-- The kinds of the tokens of an expression written out. A list as a literal has no token. -/
def kinds : Expr → List TokenKind
  | literal (.scalar s) => [.literal s]
  | literal (.list _) => []
  | unary sign operand => .operator sign.operator :: operand.kinds
  | binary op left right => left.kinds ++ .operator op :: right.kinds
  | array elements => .leftBrace :: (kindsEach elements ++ [.rightBrace])
  | group inner => .leftParen :: (inner.kinds ++ [.rightParen])

/-- Elements with commas between them. -/
def kindsEach : List Expr → List TokenKind
  | [] => []
  | [e] => e.kinds
  | e :: rest => e.kinds ++ .comma :: kindsEach rest

end

/-- How tightly an expression holds together: by the tier of its operator, and tighter than all
tiers if it has none. -/
def tier : Expr → Nat
  | binary op _ _ => op.tier
  | _ => 6

mutual

/-- Canonical shape: operators of one tier hang to the left, tighter ones stand below looser ones,
signs stand before tight operands, arrays have elements, and no literal is a list. -/
def isCanonical : Expr → Bool
  | literal (.scalar _) => true
  | literal (.list _) => false
  | unary _ operand => decide (operand.tier = 6) && operand.isCanonical
  | binary op left right =>
    decide (op.tier ≤ left.tier) && decide (op.tier < right.tier) && left.isCanonical &&
      right.isCanonical
  | array elements => !elements.isEmpty && areCanonical elements
  | group inner => inner.isCanonical

def areCanonical : List Expr → Bool
  | [] => true
  | e :: rest => e.isCanonical && areCanonical rest

end

mutual

/-- The greatest number of signs, groups and arrays inside one another. -/
def nesting : Expr → Nat
  | literal _ => 0
  | unary _ operand => operand.nesting + 1
  | binary _ left right => max left.nesting right.nesting
  | array elements => nestingEach elements + 1
  | group inner => inner.nesting + 1

def nestingEach : List Expr → Nat
  | [] => 0
  | e :: rest => max e.nesting (nestingEach rest)

end

theorem areCanonical_eq_all (es : List Expr) : areCanonical es = es.all isCanonical := by
  induction es with
  | nil => rw [areCanonical, List.all_nil]
  | cons e rest ih => rw [areCanonical, ih, List.all_cons]

theorem nestingEach_le_iff {es : List Expr} {n : Nat} :
    nestingEach es ≤ n ↔ ∀ e ∈ es, e.nesting ≤ n := by
  induction es with
  | nil => exact ⟨fun _ e he => absurd he List.not_mem_nil, fun _ => Nat.zero_le n⟩
  | cons e rest ih => rw [nestingEach, Nat.max_le, ih, List.forall_mem_cons]

end Expr

theorem Sign.sign?_operator (sign : Sign) : sign.operator.sign? = some sign := by
  cases sign <;> rfl

end CellFormula
