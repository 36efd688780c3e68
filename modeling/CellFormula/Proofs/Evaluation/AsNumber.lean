import CellFormula.Proofs.Evaluation.Failure
import CellFormula.Proofs.Number.Neutral
import CellFormula.Proofs.Value.NumericText

/-! # Ways to make a value a number

Two signs `-`, a zero that is added or subtracted and a one that multiplies or divides all coerce
their operand and then leave the number alone. So they all give the same value.
-/

namespace CellFormula

/-! ## Numbers that are left alone -/

namespace Binary64

theorem isFinite_neg (x : Float) : (-x).isFinite = x.isFinite := by
  rcases Nat.lt_or_ge infinity (rankOf x) with hgt | hle
  · have hx := unpack_of_infinity_lt hgt
    have hneg : -x = Float.ofModel (.pack x.toModel.unpack.neg) := rfl
    have hfinite : x.isFinite = x.toModel.unpack.isFinite := rfl
    rw [hneg, hfinite, hx]
    rfl
  · rw [Bool.eq_iff_iff, isFinite_iff, isFinite_iff, ← toFloat_rankOf hle, neg_toFloat _ hle,
      rankOf_toFloat _ hle, rankOf_toFloat _ hle]

end Binary64

namespace Value

theorem ofNumber_zero (negative : Bool) : ofNumber (Binary64.toFloat negative 0) = number 0 := by
  cases negative <;> decide

/-- The sign of a zero is lost in any case. -/
theorem ofNumber_congr {x y : Float} (h : Binary64.IsSameUpToZero x y) :
    ofNumber x = ofNumber y := by
  rcases h with rfl | ⟨negative, negative', rfl, rfl⟩
  · rfl
  · rw [ofNumber_zero, ofNumber_zero]

theorem ofNumber_of_not_isFinite {x : Float} (h : ¬ x.isFinite = true) :
    ofNumber x = error .num :=
  if_neg h

/-- The second sign coerces what the first one gave, which is a number or an error already. -/
theorem negate_ofNumber_neg (x : Float) : (ofNumber (-x)).negate = ofNumber x := by
  by_cases hfinite : x.isFinite = true
  · rw [Binary64.isFinite_iff] at hfinite
    have hle := Nat.le_of_lt hfinite
    rw [← Binary64.toFloat_rankOf hle, Binary64.neg_toFloat _ hle]
    rcases Nat.eq_zero_or_pos (Binary64.rankOf x) with hzero | hpos
    · rw [hzero, ofNumber_zero, ofNumber_zero]
      decide
    · have hplain : IsPlainNumber
          (Binary64.toFloat (!Binary64.isNegative x) (Binary64.rankOf x)) :=
        isPlainNumber_toFloat hfinite fun _ => hpos
      rw [hplain.ofNumber_eq]
      change ofNumber (-Binary64.toFloat _ _) = _
      rw [Binary64.neg_toFloat _ hle, Bool.not_not]
  · rw [ofNumber_of_not_isFinite hfinite,
      ofNumber_of_not_isFinite (by rwa [Binary64.isFinite_neg])]
    rfl

/-! ## Coerced values -/

/-- A value as a number: the error of its coercion, an error for what is not finite, or the number
without the sign of a zero. -/
def asNumber (v : Value) : Value :=
  match v.toNumber with
  | .error kind => error kind
  | .ok x => if x.isFinite then number (if x = -0 then 0 else x) else error .num

theorem asNumber_of_error {v : Value} {kind : ErrorKind} (h : v.toNumber = .error kind) :
    v.asNumber = error kind := by
  rw [asNumber, h]

theorem asNumber_of_ok {v : Value} {x : Float} (h : v.toNumber = .ok x) :
    v.asNumber = ofNumber x := by
  rw [asNumber, h, ofNumber]
  by_cases hfinite : x.isFinite = true
  · simp only [if_pos hfinite, add_zero_eq_ite hfinite]
  · simp only [if_neg hfinite]

theorem negate_negate (v : Value) : v.negate.negate = v.asNumber := by
  cases h : v.toNumber with
  | error kind =>
      rw [asNumber_of_error h, negate, negate, h]
      rfl
  | ok x =>
      have hneg : v.negate = ofNumber (-x) := by
        rw [negate, h]
        rfl
      rw [asNumber_of_ok h, hneg, negate_ofNumber_neg]

theorem toNumber_number (c : Float) : (number c).toNumber = .ok c := by
  rw [toNumber, firstScalar]
  rfl

section Operand

variable {op : Arithmetic} {c : Float}

theorem apply_neutral_right (h : ∀ x, op.applyNumbers x c = ofNumber x) (v : Value) :
    op.apply v (number c) = v.asNumber := by
  have hc := toNumber_number c
  cases hv : v.toNumber with
  | error kind => rw [asNumber_of_error hv, Arithmetic.apply, ofResult_left _ hv]
  | ok x => rw [asNumber_of_ok hv, Arithmetic.apply, ofResult_both _ hv hc, h]

theorem apply_neutral_left (h : ∀ x, op.applyNumbers c x = ofNumber x) (v : Value) :
    op.apply (number c) v = v.asNumber := by
  have hc := toNumber_number c
  cases hv : v.toNumber with
  | error kind => rw [asNumber_of_error hv, Arithmetic.apply, ofResult_right _ hc hv]
  | ok x => rw [asNumber_of_ok hv, Arithmetic.apply, ofResult_both _ hc hv, h]

end Operand

/-- Whatever the value, two signs `-`, zero added on either side or subtracted, and one that
multiplies or divides all make it the same number or give the same error. -/
theorem asNumber_idioms_agree (v : Value) :
    v.negate.negate = v.asNumber ∧
    Arithmetic.add.apply v (number 0) = v.asNumber ∧
    Arithmetic.add.apply (number 0) v = v.asNumber ∧
    Arithmetic.subtract.apply v (number 0) = v.asNumber ∧
    Arithmetic.multiply.apply v (number 1) = v.asNumber ∧
    Arithmetic.divide.apply v (number 1) = v.asNumber := by
  refine ⟨v.negate_negate, apply_neutral_right (fun x => ?_) v, apply_neutral_left (fun x => ?_) v,
    apply_neutral_right (fun x => ?_) v, apply_neutral_right (fun x => ?_) v,
    apply_neutral_right (fun x => ?_) v⟩
  · exact ofNumber_congr (Binary64.isSameUpToZero_add_zero x)
  · exact ofNumber_congr (Binary64.isSameUpToZero_zero_add x)
  · exact ofNumber_congr (Binary64.isSameUpToZero_sub_zero x)
  · exact ofNumber_congr (Binary64.isSameUpToZero_mul_one x)
  · have hne : ((1 : Float) == 0) = false := by decide
    rw [Arithmetic.applyNumbers, hne, if_neg Bool.false_ne_true]
    exact ofNumber_congr (Binary64.isSameUpToZero_div_one x)

end Value

end CellFormula
