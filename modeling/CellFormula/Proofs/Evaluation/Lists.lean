import CellFormula.Proofs.Evaluation.WellFormed

/-! # Lists as operands

Every operator reduces its operands to their first scalars before it does anything else. So a list
with elements may stand wherever the first of them may, no operator gives a list, and none ever
meets one behind the reduction.
-/

namespace CellFormula

namespace Value

/-! ## Reduction within values -/

/-- What a value stands for, as a value: the first element of a list, however deep it lies. -/
def reduced : Value → Except ErrorKind Value
  | list [] => .error .value
  | list (item :: _) => item.reduced
  | scalar s => .ok (scalar s)

/-- Coerce what a value stands for, with an answer for lists as well. -/
def coerceReduced {α : Type} (onScalar : Scalar → Except ErrorKind α)
    (onList : List Value → Except ErrorKind α) (v : Value) : Except ErrorKind α := do
  match ← v.reduced with
  | scalar s => onScalar s
  | list items => onList items

/-- The rank of a type in the order of values, with one for errors and lists, which have no place
in it. -/
def rank (misplaced : Nat) : Value → Nat
  | number _ => 0
  | text _ => 1
  | boolean _ => 2
  | _ => misplaced

/-- Compare what two values stand for: values of one type by their order, and others by rank. -/
def compareReduced (misplaced : Nat) (left right : Value) : Except ErrorKind Ordering := do
  match ← left.reduced, ← right.reduced with
  | error kind, _ => .error kind
  | _, error kind => .error kind
  | number x, number y => .ok (compareNumbers x y)
  | text s, text t => .ok (Collation.collate s t)
  | boolean a, boolean b => .ok (compareBooleans a b)
  | v, w => .ok (Ord.compare (v.rank misplaced) (w.rank misplaced))

theorem firstScalar_list_cons (first : Value) (rest : List Value) :
    (list (first :: rest)).firstScalar = first.firstScalar := by
  rw [firstScalar]

theorem reduced_eq_map_firstScalar (v : Value) : v.reduced = v.firstScalar.map scalar := by
  fun_induction reduced v with
  | case1 => rfl
  | case2 item rest ih => rw [ih, firstScalar_list_cons]
  | case3 s => rfl

theorem reduced_ne_list (v : Value) (items : List Value) : v.reduced ≠ .ok (list items) := by
  rw [reduced_eq_map_firstScalar]
  cases v.firstScalar <;> simp [Except.map]

theorem coerceReduced_eq {α : Type} (onScalar : Scalar → Except ErrorKind α)
    (onList : List Value → Except ErrorKind α) (v : Value) :
    v.coerceReduced onScalar onList = v.firstScalar.bind onScalar := by
  rw [coerceReduced, reduced_eq_map_firstScalar]
  cases v.firstScalar <;> rfl

theorem compareReduced_eq_compare (misplaced : Nat) (left right : Value) :
    left.compareReduced misplaced right = left.compare right := by
  rw [compareReduced, compare, reduced_eq_map_firstScalar, reduced_eq_map_firstScalar]
  cases left.firstScalar with
  | error kind => rfl
  | ok s =>
      cases right.firstScalar with
      | error kind => rfl
      | ok t => cases s <;> cases t <;> rfl

end Value

/-! ## Operators on reduced operands -/

/-- Of its operands an operator sees nothing but their first scalars. -/
theorem Operator.apply_congr (op : Operator) {left left' right right' : Value}
    (hl : left.firstScalar = left'.firstScalar) (hr : right.firstScalar = right'.firstScalar) :
    op.apply left right = op.apply left' right' := by
  cases op with
  | arithmetic op =>
      rw [apply, apply, Arithmetic.apply, Arithmetic.apply, Value.toNumber, Value.toNumber,
        Value.toNumber, Value.toNumber, hl, hr]
  | concat =>
      rw [apply, apply, Value.concat, Value.concat, Value.toText, Value.toText, Value.toText,
        Value.toText, hl, hr]
  | comparison op =>
      rw [apply, apply, Comparison.apply, Comparison.apply, Value.compare, Value.compare, hl, hr]

theorem Sign.apply_congr (sign : Sign) {v w : Value} (h : v.firstScalar = w.firstScalar) :
    sign.apply v = sign.apply w := by
  cases sign with
  | minus => rw [apply, apply, Value.negate, Value.negate, Value.toNumber, Value.toNumber, h]
  | plus => rw [apply, apply, Value.identity, Value.identity, h]

theorem Operator.exists_scalar_apply (op : Operator) (left right : Value) :
    ∃ s, op.apply left right = .scalar s := by
  obtain ⟨s, hs, -⟩ := op.isPlainScalar_apply left right
  exact ⟨s, hs⟩

theorem Sign.exists_scalar_apply (sign : Sign) (v : Value) : ∃ s, sign.apply v = .scalar s := by
  cases sign with
  | minus =>
      obtain ⟨s, hs, -⟩ := v.isPlainScalar_negate
      exact ⟨s, hs⟩
  | plus =>
      -- What an empty list stands for is an error, and thus a scalar as well.
      rw [apply, Value.identity]
      cases v.firstScalar with
      | error kind => exact ⟨.error kind, rfl⟩
      | ok s => exact ⟨s, rfl⟩

/-- On either side of every operator, and behind either sign, a list with elements gives what its
first element gives. Neither the reduction of a value nor an operator or a sign gives a list. So
whatever the coercions and the comparison did with a list behind the reduction, their answers would
be the same. -/
theorem list_stands_for_first :
    (∀ (op : Operator) (first : Value) (rest : List Value) (v : Value),
      op.apply (.list (first :: rest)) v = op.apply first v ∧
        op.apply v (.list (first :: rest)) = op.apply v first) ∧
    (∀ (sign : Sign) (first : Value) (rest : List Value),
      sign.apply (.list (first :: rest)) = sign.apply first) ∧
    (∀ v : Value, v.reduced = v.firstScalar.map .scalar ∧ ∀ items, v.reduced ≠ .ok (.list items)) ∧
    (∀ (op : Operator) (left right : Value) (items : List Value),
      op.apply left right ≠ .list items) ∧
    (∀ (sign : Sign) (v : Value) (items : List Value), sign.apply v ≠ .list items) ∧
    (∀ (onList : List Value → Except ErrorKind Float) (v : Value),
      v.coerceReduced Scalar.toNumber onList = v.toNumber) ∧
    (∀ (onList : List Value → Except ErrorKind String) (v : Value),
      v.coerceReduced Scalar.toText onList = v.toText) ∧
    ∀ (misplaced : Nat) (left right : Value),
      left.compareReduced misplaced right = left.compare right := by
  refine ⟨?_, ?_, fun v => ⟨v.reduced_eq_map_firstScalar, v.reduced_ne_list⟩, ?_, ?_,
    Value.coerceReduced_eq _, Value.coerceReduced_eq _, Value.compareReduced_eq_compare⟩
  · intro op first rest v
    have hfirst := first.firstScalar_list_cons rest
    exact ⟨op.apply_congr hfirst rfl, op.apply_congr rfl hfirst⟩
  · intro sign first rest
    exact sign.apply_congr (first.firstScalar_list_cons rest)
  · intro op left right items
    obtain ⟨s, hs⟩ := op.exists_scalar_apply left right
    rw [hs]
    exact nofun
  · intro sign v items
    obtain ⟨s, hs⟩ := sign.exists_scalar_apply v
    rw [hs]
    exact nofun

end CellFormula
