import CellFormula.Expr.Evaluation

/-! # Which error an operator gives

Every operator coerces its operands one by one, and each of them may fail by itself. A failure on
the left comes before one on the right, except that a comparison reduces both operands to scalars
before it looks for error values among them.
-/

namespace CellFormula

/-- The error of a coercion that failed. -/
def failureOf {α : Type} : Except ErrorKind α → Option ErrorKind
  | .ok _ => none
  | .error kind => some kind

theorem failureOf_eq_some_iff {α : Type} {result : Except ErrorKind α} {kind : ErrorKind} :
    failureOf result = some kind ↔ result = .error kind := by
  cases result <;> simp [failureOf]

theorem failureOf_eq_none_iff {α : Type} {result : Except ErrorKind α} :
    failureOf result = none ↔ ∃ x, result = .ok x := by
  cases result <;> simp [failureOf]

namespace Value

/-- What a comparison takes from an operand: its first scalar, unless that is an error. -/
def toComparand (v : Value) : Except ErrorKind Scalar := do
  match ← v.firstScalar with
  | .error kind => .error kind
  | s => return s

/-- Only an empty list stands for no scalar. -/
theorem firstScalar_eq_error {v : Value} {kind : ErrorKind} (h : v.firstScalar = .error kind) :
    kind = .value := by
  fun_induction firstScalar v with
  | case1 s => cases h
  | case2 =>
      cases h
      rfl
  | case3 item rest ih => exact ih h

theorem toComparand_eq_error_iff {v : Value} {kind : ErrorKind} :
    v.toComparand = .error kind ↔
      v.firstScalar = .error kind ∨ v.firstScalar = .ok (.error kind) := by
  unfold toComparand
  cases v.firstScalar with
  | error kind' => simp [bind, Except.bind]
  | ok s => cases s <;> simp [bind, Except.bind, pure, Except.pure]

theorem toComparand_eq_ok_iff {v : Value} {s : Scalar} :
    v.toComparand = .ok s ↔ v.firstScalar = .ok s ∧ ∀ kind, s ≠ .error kind := by
  unfold toComparand
  cases v.firstScalar with
  | error kind => simp [bind, Except.bind]
  | ok t => cases t <;> cases s <;> simp [bind, Except.bind, pure, Except.pure]

/-! ## Two coercions, one after the other -/

section InTurn

variable {α β : Type} {a : Except ErrorKind α} {b : Except ErrorKind β} {kind : ErrorKind}
  (f : α → β → Value)

theorem ofResult_left (ha : a = .error kind) :
    ofResult (do let x ← a; let y ← b; return f x y) = error kind := by
  rw [ha]
  rfl

theorem ofResult_right {x : α} (ha : a = .ok x) (hb : b = .error kind) :
    ofResult (do let x ← a; let y ← b; return f x y) = error kind := by
  rw [ha, hb]
  rfl

theorem ofResult_both {x : α} {y : β} (ha : a = .ok x) (hb : b = .ok y) :
    ofResult (do let x ← a; let y ← b; return f x y) = f x y := by
  rw [ha, hb]
  rfl

end InTurn

end Value

/-! ## Comparisons -/

namespace Comparison

variable {op : Comparison} {left right : Value} {kind : ErrorKind}

theorem apply_of_compare_eq_error (h : left.compare right = .error kind) :
    op.apply left right = .error kind := by
  rw [apply, h]
  rfl

/-- Where both operands stand for scalars, an error among them is given, the left one first. -/
theorem apply_of_left_error {t : Scalar} (hl : left.firstScalar = .ok (.error kind))
    (hr : right.firstScalar = .ok t) : op.apply left right = .error kind := by
  apply apply_of_compare_eq_error
  rw [Value.compare, hl, hr]
  cases t <;> rfl

theorem apply_of_left_empty (hl : left.firstScalar = .error kind) :
    op.apply left right = .error kind := by
  apply apply_of_compare_eq_error
  rw [Value.compare, hl]
  rfl

/-- An operand on the right that stands for no scalar is met before an error on the left. -/
theorem apply_of_right_empty {s : Scalar} (hl : left.firstScalar = .ok s)
    (hr : right.firstScalar = .error kind) : op.apply left right = .error kind := by
  apply apply_of_compare_eq_error
  rw [Value.compare, hl, hr]
  rfl

theorem apply_of_right_error {s : Scalar} (hl : left.toComparand = .ok s)
    (hr : right.firstScalar = .ok (.error kind)) : op.apply left right = .error kind := by
  obtain ⟨hscalar, hne⟩ := Value.toComparand_eq_ok_iff.mp hl
  apply apply_of_compare_eq_error
  rw [Value.compare, hscalar, hr]
  cases s with
  | error kind' => exact absurd rfl (hne kind')
  | _ => rfl

end Comparison

/-! ## All operators -/

namespace Operator

/-- The error that an operand gives by itself. -/
def failure? : Operator → Value → Option ErrorKind
  | arithmetic _, v => failureOf v.toNumber
  | concat, v => failureOf v.toText
  | comparison _, v => failureOf v.toComparand

/-- A comparison overlooks the error value on its left if the right operand stands for no
scalar. -/
def Overlooks (op : Operator) (left right : Value) (kind : ErrorKind) : Prop :=
  op.isComparison = true ∧ left.firstScalar = .ok (.error kind) ∧
    right.firstScalar = .error .value

/-- A failure of the left operand is the result, whatever the right operand is, unless a comparison
overlooks it; and it is overlooked for the error of an empty list. A failure of the right operand is
the result if the left operand does not fail. -/
theorem apply_failure (op : Operator) (left right : Value) (kind : ErrorKind) :
    (op.failure? left = some kind → ¬ op.Overlooks left right kind →
      op.apply left right = .error kind) ∧
    (op.Overlooks left right kind → op.apply left right = .error .value) ∧
    (op.failure? left = none → op.failure? right = some kind →
      op.apply left right = .error kind) := by
  cases op with
  | arithmetic op =>
      simp only [failure?, failureOf_eq_some_iff, failureOf_eq_none_iff]
      refine ⟨fun hl _ => Value.ofResult_left _ hl, nofun, ?_⟩
      rintro ⟨x, hl⟩ hr
      exact Value.ofResult_right _ hl hr
  | concat =>
      simp only [failure?, failureOf_eq_some_iff, failureOf_eq_none_iff]
      refine ⟨fun hl _ => Value.ofResult_left _ hl, nofun, ?_⟩
      rintro ⟨s, hl⟩ hr
      exact Value.ofResult_right _ hl hr
  | comparison op =>
      simp only [failure?, failureOf_eq_some_iff, failureOf_eq_none_iff,
        Value.toComparand_eq_error_iff]
      refine ⟨?_, ?_, ?_⟩
      · rintro (hl | hl) hseen
        · exact Comparison.apply_of_left_empty hl
        · cases hr : right.firstScalar with
          | ok t => exact Comparison.apply_of_left_error hl hr
          | error kind' =>
              obtain rfl := Value.firstScalar_eq_error hr
              exact absurd ⟨rfl, hl, hr⟩ hseen
      · rintro ⟨-, hl, hr⟩
        exact Comparison.apply_of_right_empty hl hr
      · rintro ⟨s, hl⟩ (hr | hr)
        · exact Comparison.apply_of_right_empty (Value.toComparand_eq_ok_iff.mp hl).1 hr
        · exact Comparison.apply_of_right_error hl hr

/-- An error inside lists before a text that is no number, an empty list before an error, and an
error in a list behind a number. Before an empty list an error is overlooked. -/
theorem apply_failure_lists :
    (arithmetic .add).apply (.list [.list [.error .na], .number 1]) (.text "x") = .error .na ∧
    concat.apply (.list []) (.error .ref) = .error .value ∧
    (comparison .less).apply (.number 1) (.list [.error .div0]) = .error .div0 ∧
    (comparison .equal).apply (.error .na) (.list [.list []]) = .error .value := by
  refine ⟨(apply_failure _ _ _ .na).1 rfl ?_, (apply_failure _ _ _ .value).1 rfl ?_,
    (apply_failure _ _ _ .div0).2.2 rfl rfl, (apply_failure _ _ _ .na).2.1 ⟨rfl, rfl, rfl⟩⟩
  · exact fun h => absurd h.1 (by decide)
  · exact fun h => absurd h.1 (by decide)

/-- The failure of the left operand of a comparison is not always the result. -/
theorem comparison_loses_left_failure :
    (comparison .equal).failure? (.error .na) = some .na ∧
      (comparison .equal).apply (.error .na) (.list []) ≠ .error .na := by
  decide

end Operator

end CellFormula
