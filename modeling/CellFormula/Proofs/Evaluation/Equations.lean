import CellFormula.Expr.Evaluation
import CellFormula.Expr.Shape

/-! # Computation rules for evaluation

The value of an expression by its shape, without the list of pending operators.
-/

namespace CellFormula.Expr

/-- Induction on expressions, over all elements of an array at once. -/
@[induction_eliminator]
theorem induction {motive : Expr → Prop} (literal : ∀ v, motive (.literal v))
    (unary : ∀ sign operand, motive operand → motive (.unary sign operand))
    (binary : ∀ op left right, motive left → motive right → motive (.binary op left right))
    (array : ∀ elements, (∀ e ∈ elements, motive e) → motive (.array elements))
    (group : ∀ inner, motive inner → motive (.group inner)) (e : Expr) : motive e :=
  match e with
  | .literal v => literal v
  | .unary sign operand =>
    unary sign operand (induction literal unary binary array group operand)
  | .binary op left right =>
    binary op left right (induction literal unary binary array group left)
      (induction literal unary binary array group right)
  | .array elements =>
    array elements fun e _ => induction literal unary binary array group e
  | .group inner => group inner (induction literal unary binary array group inner)

@[simp] theorem evaluate_literal (v : Value) : (literal v).evaluate = v := by
  rw [evaluate, evaluateOnto]
  rfl

@[simp] theorem evaluate_unary (sign : Sign) (operand : Expr) :
    (unary sign operand).evaluate = sign.apply operand.evaluate := by
  rw [evaluate, evaluateOnto]
  rfl

@[simp] theorem evaluate_binary (op : Operator) (left right : Expr) :
    (binary op left right).evaluate = op.apply left.evaluate right.evaluate := by
  rw [evaluate, evaluateOnto, evaluateOnto_eq_applyAll]
  rfl

@[simp] theorem evaluate_array (elements : List Expr) :
    (array elements).evaluate = .list (elements.map evaluate) := by
  rw [evaluate, evaluateOnto, evaluateEach_eq_map]
  rfl

@[simp] theorem evaluate_group (inner : Expr) : (group inner).evaluate = inner.evaluate := by
  rw [evaluate, evaluateOnto]
  rfl

/-! ## Parts -/

/-- The first expression occurs in the second, possibly as the whole. -/
inductive IsPart : Expr → Expr → Prop where
  | whole (e : Expr) : IsPart e e
  | operand {p operand : Expr} (sign : Sign) : IsPart p operand → IsPart p (unary sign operand)
  | left {p left : Expr} (op : Operator) (right : Expr) :
      IsPart p left → IsPart p (binary op left right)
  | right {p right : Expr} (op : Operator) (left : Expr) :
      IsPart p right → IsPart p (binary op left right)
  | element {p e : Expr} {elements : List Expr} :
      e ∈ elements → IsPart p e → IsPart p (array elements)
  | inner {p inner : Expr} : IsPart p inner → IsPart p (group inner)

theorem mem_kindsEach {e : Expr} {kind : TokenKind} {elements : List Expr} (he : e ∈ elements)
    (hkind : kind ∈ e.kinds) : kind ∈ kindsEach elements := by
  induction elements with
  | nil => cases he
  | cons first rest ih =>
      cases rest with
      | nil =>
          obtain rfl := List.mem_singleton.mp he
          rwa [kindsEach]
      | cons second rest =>
          rw [kindsEach, List.mem_append]
          · rcases List.mem_cons.mp he with rfl | he
            · exact .inl hkind
            · exact .inr (List.mem_cons_of_mem _ (ih he))
          · nofun

namespace IsPart

variable {p e : Expr} (h : IsPart p e)
include h

theorem kinds_subset : p.kinds ⊆ e.kinds := by
  induction h with
  | whole => exact List.Subset.refl _
  | operand sign _ ih =>
      rw [kinds]
      exact List.subset_cons_of_subset _ ih
  | left op right _ ih =>
      rw [kinds]
      exact List.subset_append_of_subset_left _ ih
  | right op left _ ih =>
      rw [kinds]
      exact List.subset_append_of_subset_right _ (List.subset_cons_of_subset _ ih)
  | element he _ ih =>
      rw [kinds]
      intro kind hkind
      exact List.mem_cons_of_mem _ (List.mem_append_left _ (mem_kindsEach he (ih hkind)))
  | inner _ ih =>
      rw [kinds]
      exact List.subset_cons_of_subset _ (List.subset_append_of_subset_left _ ih)

theorem isCanonical (hcanonical : e.isCanonical = true) : p.isCanonical = true := by
  induction h with
  | whole => exact hcanonical
  | operand sign _ ih =>
      simp only [Expr.isCanonical, Bool.and_eq_true] at hcanonical
      exact ih hcanonical.2
  | left op right _ ih =>
      simp only [Expr.isCanonical, Bool.and_eq_true] at hcanonical
      exact ih hcanonical.1.2
  | right op left _ ih =>
      simp only [Expr.isCanonical, Bool.and_eq_true] at hcanonical
      exact ih hcanonical.2
  | element he _ ih =>
      simp only [Expr.isCanonical, areCanonical_eq_all, Bool.and_eq_true,
        List.all_eq_true] at hcanonical
      exact ih (hcanonical.2 _ he)
  | inner _ ih =>
      rw [Expr.isCanonical] at hcanonical
      exact ih hcanonical

theorem nesting_le : p.nesting ≤ e.nesting := by
  induction h with
  | whole => exact Nat.le_refl _
  | operand sign _ ih =>
      rw [nesting]
      exact Nat.le_succ_of_le ih
  | left op right _ ih =>
      rw [nesting]
      exact Nat.le_trans ih (Nat.le_max_left _ _)
  | right op left _ ih =>
      rw [nesting]
      exact Nat.le_trans ih (Nat.le_max_right _ _)
  | element he _ ih =>
      rw [nesting]
      exact Nat.le_succ_of_le (Nat.le_trans ih (nestingEach_le_iff.mp (Nat.le_refl _) _ he))
  | inner _ ih =>
      rw [nesting]
      exact Nat.le_succ_of_le ih

end IsPart

end CellFormula.Expr
