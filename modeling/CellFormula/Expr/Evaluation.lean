import CellFormula.Comparison
import CellFormula.Expr.Basic

/-! # The value of an expression -/

namespace CellFormula

def Operator.apply : Operator → Value → Value → Value
  | arithmetic op, left, right => op.apply left right
  | concat, left, right => left.concat right
  | comparison op, left, right => op.apply left right

namespace Expr

/-- Apply operators with their right operands, one after the other. -/
def applyAll (left : Value) (pending : List (Operator × Value)) : Value :=
  pending.foldl (fun v p => p.1.apply v p.2) left

mutual

/-- The value of an expression to which the pending operators are then applied. Along a chain of
operators only the list of pending ones grows, so that chains may be of any length. -/
def evaluateOnto : Expr → List (Operator × Value) → Value
  | literal v, pending => applyAll v pending
  | unary sign operand, pending => applyAll (sign.apply (evaluateOnto operand [])) pending
  | binary op left right, pending => evaluateOnto left ((op, evaluateOnto right []) :: pending)
  | array elements, pending => applyAll (.list (evaluateEach elements)) pending
  | group inner, pending => applyAll (evaluateOnto inner []) pending

def evaluateEach : List Expr → List Value
  | [] => []
  | e :: rest => evaluateOnto e [] :: evaluateEach rest

end

/-- The value of an expression. Calculation never fails: what cannot be computed is an error
value. -/
def evaluate (e : Expr) : Value :=
  evaluateOnto e []

theorem evaluateOnto_eq_applyAll (e : Expr) (pending : List (Operator × Value)) :
    e.evaluateOnto pending = applyAll e.evaluate pending := by
  match e with
  | literal v => rw [evaluate, evaluateOnto, evaluateOnto]; rfl
  | unary sign operand => rw [evaluate, evaluateOnto, evaluateOnto]; rfl
  | binary op left right =>
      rw [evaluate, evaluateOnto, evaluateOnto, evaluateOnto_eq_applyAll left,
        evaluateOnto_eq_applyAll left]
      rfl
  | array elements => rw [evaluate, evaluateOnto, evaluateOnto]; rfl
  | group inner => rw [evaluate, evaluateOnto, evaluateOnto]; rfl

theorem evaluateEach_eq_map (es : List Expr) : evaluateEach es = es.map evaluate := by
  induction es with
  | nil => rw [evaluateEach, List.map_nil]
  | cons e rest ih => rw [evaluateEach, ih, List.map_cons, evaluate]

end Expr

end CellFormula
