import CellFormula.Proofs.Number.Rank

/-! # Neutral operands

Adding or subtracting zero and multiplying or dividing by one leave every number as it is, except
that a zero may change its sign. Infinities and NaNs stay what they are.
-/

namespace CellFormula.Binary64

open Float.Model (Format UnpackedFloat totalExponent)
open Float.Model.UnpackedFloat

/-! ## Rounding of numbers that need none -/

theorem shiftRight_mul_two_pow (m k : Nat) :
    ExtendedMantissa.mk (m * 2 ^ k) false false >>> k = .mk m false false := by
  induction k generalizing m with
  | zero => simp [HShiftRight.hShiftRight, Nat.repeat]
  | succ k ih =>
      change ExtendedMantissa.shiftRightOne
        (ExtendedMantissa.mk (m * 2 ^ (k + 1)) false false >>> k) = _
      rw [Nat.pow_succ', ← Nat.mul_assoc, ih]
      simp [ExtendedMantissa.shiftRightOne]

theorem targetExponent_eq (e : Int) : Format.binary64.targetExponent e = max (e - 53) (-1074) :=
  rfl

section Significand

variable {rank : Nat} (h : 0 < rank)
include h

/-- How many binary digits a significand has: all of them, or fewer at the lowest scale. -/
theorem log2_significand :
    (significand rank).log2 < 53 ∧ (0 < scale rank → 52 ≤ (significand rank).log2) := by
  have hne := Nat.ne_of_gt (significand_pos h)
  rw [Nat.log2_lt hne, Nat.le_log2 hne]
  exact ⟨significand_lt rank, binade_le_significand⟩

theorem shiftToTargetExponent_significand (k : Nat) :
    shiftToTargetExponent .binary64 (significand rank * 2 ^ k) (scale rank - 1074 - k) .exact =
      (⟨significand rank, false, false⟩, (scale rank : Int) - 1074) := by
  obtain ⟨hlt, hle⟩ := log2_significand h
  have htarget : Format.binary64.targetExponent
      (totalExponent (significand rank * 2 ^ k) (scale rank - 1074 - k)) = scale rank - 1074 := by
    rw [targetExponent_eq, totalExponent, log2_mul_two_pow (significand_pos h)]
    omega
  have hamount : ((scale rank : Int) - 1074 - (scale rank - 1074 - k)).toNat = k := by omega
  rw [shiftToTargetExponent, htarget, shiftToExponent, hamount,
    ExtendedMantissa.ofMantissaAndAccuracy, shiftRight_mul_two_pow, Int.sub_add_cancel]

/-- Rounding takes the zeros behind a significand off and changes nothing else. -/
theorem roundWithAccuracy_significand (s : UnpackedFloat.Sign) (k : Nat) :
    roundWithAccuracy .binary64 s (significand rank * 2 ^ k) (scale rank - 1074 - k) .exact =
      .finite s (significand rank) (scale rank - 1074) (significand_pos h) := by
  have hagain := shiftToTargetExponent_significand h 0
  rw [Nat.pow_zero, Nat.mul_one, Nat.cast_zero, Int.sub_zero] at hagain
  rw [roundWithAccuracy, shiftToTargetExponent_significand h k]
  simp only [ExtendedMantissa.roundedMantissa, ExtendedMantissa.accuracy,
    Accuracy.roundToNearestEven, hagain]
  rw [dif_neg (Nat.ne_of_gt (significand_pos h))]

/-- Division by one puts zeros behind a significand: one more than the divisor has, except at the
lowest scale. -/
theorem divCore_one : ∃ k : Nat,
    divCore .binary64 (significand rank) (scale rank - 1074) (2 ^ 52) (-52) =
      (significand rank * 2 ^ k, (scale rank : Int) - 1074 - k, .exact) := by
  obtain ⟨hlt, hle⟩ := log2_significand h
  have hone : totalExponent (2 ^ 52) (-52) = 1 := by decide
  have htarget : ∃ k : Nat, min ((scale rank : Int) - 1074 - -52)
      (Format.binary64.targetExponent
        (totalExponent (significand rank) (scale rank - 1074) - 1)) = scale rank - 1074 - k := by
    refine ⟨if 0 < scale rank then 1 else 0, ?_⟩
    rw [targetExponent_eq, totalExponent]
    split <;> omega
  obtain ⟨k, hk⟩ := htarget
  have hamount : ((scale rank : Int) - 1074 - -52 - (scale rank - 1074 - k)).toNat = k + 52 := by
    omega
  have hpow : significand rank * 2 ^ (k + 52) = significand rank * 2 ^ k * 2 ^ 52 := by
    rw [Nat.pow_add, Nat.mul_assoc]
  refine ⟨k, ?_⟩
  rw [divCore, hone, hk]
  simp only [hamount, Nat.shiftLeft_eq, hpow, Nat.mul_mod_left, accuracyOfFraction, if_true]
  rw [Nat.mul_div_cancel _ (Nat.two_pow_pos 52)]

end Significand

/-! ## Neutral operations -/

/-- The operation changes nothing but the sign of a zero. -/
structure IsNeutral (f : UnpackedFloat → UnpackedFloat) : Prop where
  zero (s : UnpackedFloat.Sign) : ∃ s', f (.zero s) = .zero s'
  finite (s : UnpackedFloat.Sign) {rank : Nat} (hpos : 0 < rank) :
    f (.finite s (significand rank) (scale rank - 1074) (significand_pos hpos)) =
      .finite s (significand rank) (scale rank - 1074) (significand_pos hpos)
  infinity (s : UnpackedFloat.Sign) : f (.infinity s) = .infinity s
  notANumber : f .notANumber = .notANumber

/-- The two numbers are the same, or both are zeros. -/
def IsSameUpToZero (x y : Float) : Prop :=
  x = y ∨ ∃ negative negative', x = toFloat negative 0 ∧ y = toFloat negative' 0

theorem ofModel_pack_unpack (x : Float) : Float.ofModel (.pack x.toModel.unpack) = x := by
  apply eq_of_toBits
  exact pack_unpack_of_valid x.toModel.valid (by decide)

theorem IsNeutral.isSameUpToZero {f : UnpackedFloat → UnpackedFloat} (h : IsNeutral f)
    (x : Float) : IsSameUpToZero (Float.ofModel (.pack (f x.toModel.unpack))) x := by
  have hunchanged (heq : f x.toModel.unpack = x.toModel.unpack) :
      IsSameUpToZero (Float.ofModel (.pack (f x.toModel.unpack))) x := by
    rw [heq, ofModel_pack_unpack]
    exact .inl rfl
  rcases Nat.lt_or_ge Binary64.infinity (rankOf x) with hgt | hle
  · apply hunchanged
    rw [unpack_of_infinity_lt hgt, h.notANumber]
  · rcases unpack_cases hle with ⟨hrank, hx⟩ | ⟨hpos, -, hx⟩ | ⟨-, hx⟩
    · obtain ⟨s, hs⟩ := h.zero (sign (isNegative x))
      have hzero : Float.ofModel (.pack (.zero s)) = toFloat (s == .negative) 0 := by
        cases s <;> decide
      rw [hx, hs, hzero, ← toFloat_rankOf hle, hrank]
      exact .inr ⟨_, _, rfl, rfl⟩
    · apply hunchanged
      rw [hx, h.finite _ hpos]
    · apply hunchanged
      rw [hx, h.infinity]

/-! ## Zero and one as operands -/

theorem unpack_zero : (0 : Float).toModel.unpack = .zero .positive := rfl

theorem unpack_one : (1 : Float).toModel.unpack = .finite .positive (2 ^ 52) (-52) (by decide) :=
  rfl

theorem sign_mul_positive (s : UnpackedFloat.Sign) : s * .positive = s := by
  cases s <;> rfl

theorem sign_div_positive (s : UnpackedFloat.Sign) : s / .positive = s := by
  cases s <;> rfl

variable (x : Float)

theorem isSameUpToZero_add_zero : IsSameUpToZero (x + 0) x := by
  have h : IsNeutral fun u => u.add .binary64 (0 : Float).toModel.unpack := by
    rw [unpack_zero]
    exact { zero s := ⟨.positive, by cases s <;> rfl⟩
            finite _ _ _ := rfl
            infinity _ := rfl
            notANumber := rfl }
  exact h.isSameUpToZero x

theorem isSameUpToZero_zero_add : IsSameUpToZero (0 + x) x := by
  have h : IsNeutral fun u => (0 : Float).toModel.unpack.add .binary64 u := by
    rw [unpack_zero]
    exact { zero s := ⟨.positive, by cases s <;> rfl⟩
            finite _ _ _ := rfl
            infinity _ := rfl
            notANumber := rfl }
  exact h.isSameUpToZero x

theorem isSameUpToZero_sub_zero : IsSameUpToZero (x - 0) x := by
  have h : IsNeutral fun u => u.sub .binary64 (0 : Float).toModel.unpack := by
    rw [unpack_zero]
    exact { zero s := ⟨s, by cases s <;> rfl⟩
            finite _ _ _ := rfl
            infinity _ := rfl
            notANumber := rfl }
  exact h.isSameUpToZero x

theorem isSameUpToZero_mul_one : IsSameUpToZero (x * 1) x := by
  have h : IsNeutral fun u => u.mul .binary64 (1 : Float).toModel.unpack := by
    rw [unpack_one]
    refine ⟨fun s => ⟨s, ?_⟩, ?_, fun s => ?_, rfl⟩
    · exact congrArg UnpackedFloat.zero (sign_mul_positive s)
    · intro s rank hpos
      have hround := roundWithAccuracy_significand hpos s 52
      simp only [UnpackedFloat.mul, sign_mul_positive]
      exact hround
    · exact congrArg UnpackedFloat.infinity (sign_mul_positive s)
  exact h.isSameUpToZero x

theorem isSameUpToZero_div_one : IsSameUpToZero (x / 1) x := by
  have h : IsNeutral fun u => u.div .binary64 (1 : Float).toModel.unpack := by
    rw [unpack_one]
    refine ⟨fun s => ⟨s, ?_⟩, ?_, fun s => ?_, rfl⟩
    · exact congrArg UnpackedFloat.zero (sign_div_positive s)
    · intro s rank hpos
      obtain ⟨k, hk⟩ := divCore_one hpos
      have hround := roundWithAccuracy_significand hpos s k
      simp only [UnpackedFloat.div, hk, sign_div_positive, hround]
    · exact congrArg UnpackedFloat.infinity (sign_div_positive s)
  exact h.isSameUpToZero x

end CellFormula.Binary64
