import CellFormula.Binary64
import Mathlib

/-! # Floating point numbers by sign and rank

A number that is not a NaN is given by its sign and its rank. Finiteness, negation and the addition
of zero are read off these two, so that later proofs never look at bit patterns.
-/

namespace CellFormula.Binary64

open Float.Model (Format UnpackedFloat)
open Float.Model.UnpackedFloat

/-! ## Constants of the format -/

theorem binade_eq : binade = 4503599627370496 := rfl

theorem signBit_eq : signBit = 9223372036854775808 := rfl

theorem infinity_eq : infinity = 9218868437227405312 := rfl

theorem lt_signBit {rank : Nat} (h : rank ≤ infinity) : rank < signBit := by
  rw [infinity_eq] at h
  rw [signBit_eq]
  omega

theorem rankOf_lt_signBit (x : Float) : rankOf x < signBit :=
  Nat.mod_lt _ (by decide)

theorem significand_of_lt {rank : Nat} (h : rank < binade) : significand rank = rank :=
  if_pos h

theorem significand_of_le {rank : Nat} (h : binade ≤ rank) :
    significand rank = binade + rank % binade :=
  if_neg (Nat.not_lt.mpr h)

theorem significand_pos {rank : Nat} (h : 0 < rank) : 0 < significand rank := by
  by_cases hsmall : rank < binade
  · rwa [significand_of_lt hsmall]
  · rw [significand_of_le (Nat.not_lt.mp hsmall), binade_eq]
    omega

theorem significand_lt (rank : Nat) : significand rank < 2 * binade := by
  by_cases hsmall : rank < binade
  · rw [significand_of_lt hsmall]
    omega
  · have hmod : rank % binade < binade := Nat.mod_lt _ (by decide)
    rw [significand_of_le (Nat.not_lt.mp hsmall)]
    omega

theorem binade_le_significand {rank : Nat} (h : 0 < scale rank) : binade ≤ significand rank := by
  have hle : binade ≤ rank := by
    refine Nat.not_lt.mp fun hlt => ?_
    rw [scale, Nat.div_eq_of_lt hlt] at h
    exact absurd h (by decide)
  rw [significand_of_le hle]
  exact Nat.le_add_right _ _

/-- A step of the scale is worth a binade of ranks. -/
theorem scale_mul_binade_add_significand (rank : Nat) :
    scale rank * binade + significand rank = rank := by
  by_cases hsmall : rank < binade
  · rw [significand_of_lt hsmall, scale, Nat.div_eq_of_lt hsmall, Nat.zero_sub, Nat.zero_mul,
      Nat.zero_add]
  · rw [significand_of_le (Nat.not_lt.mp hsmall), scale]
    rw [binade_eq] at hsmall ⊢
    omega

theorem log2_mul_two_pow {m : Nat} (h : 0 < m) (k : Nat) : (m * 2 ^ k).log2 = m.log2 + k := by
  induction k with
  | zero => rw [Nat.pow_zero, Nat.mul_one, Nat.add_zero]
  | succ k ih =>
      have hne : m * 2 ^ k ≠ 0 := Nat.ne_of_gt (Nat.mul_pos h (Nat.two_pow_pos k))
      rw [Nat.pow_succ', Nat.mul_left_comm, Nat.log2_two_mul hne, ih, Nat.add_assoc]

/-! ## Bit patterns -/

def sign (negative : Bool) : UnpackedFloat.Sign :=
  if negative then .negative else .positive

/-- The bit pattern by its fields: the sign, the eleven bits of the exponent and the rest. -/
def pattern (negative : Bool) (rank : Nat) : BitVec 64 :=
  packComponents .binary64 (sign negative) (BitVec.ofNat 11 (rank / binade)) (BitVec.ofNat 52 rank)

theorem toNat_pattern (negative : Bool) {rank : Nat} (h : rank < signBit) :
    (pattern negative rank).toNat = if negative then signBit + rank else rank := by
  have hrank : rank < 2 ^ 63 := h
  have hexponent : rank / 2 ^ 52 < 2 ^ 11 := by omega
  simp only [pattern, packComponents, BitVec.toNat_append, BitVec.toNat_ofNat, binade, signBit,
    Nat.pow_eq]
  rw [← Nat.shiftLeft_add_eq_or_of_lt (Nat.mod_lt _ (by decide)),
    ← Nat.shiftLeft_add_eq_or_of_lt (Nat.mod_lt _ (by decide)), Nat.mod_eq_of_lt hexponent,
    Nat.shiftLeft_eq, Nat.shiftLeft_eq]
  cases negative <;> simp [sign, UnpackedFloat.Sign.toBitVec] <;> omega

theorem pattern_inj {negative negative' : Bool} {rank rank' : Nat} (h : rank < signBit)
    (h' : rank' < signBit) (heq : pattern negative rank = pattern negative' rank') :
    negative = negative' ∧ rank = rank' := by
  have hnat := congrArg BitVec.toNat heq
  rw [toNat_pattern _ h, toNat_pattern _ h'] at hnat
  cases negative <;> cases negative' <;> simp at hnat ⊢ <;> omega

theorem toNat_one_append (m : BitVec 52) : (1#1 ++ m).toNat = binade + m.toNat := by
  rw [BitVec.toNat_append, ← Nat.shiftLeft_add_eq_or_of_lt m.isLt]
  rfl

/-- The five kinds of bit patterns, told apart by their fields. -/
theorem unpack_packComponents (s : UnpackedFloat.Sign) (e : BitVec 11) (m : BitVec 52) :
    unpack .binary64 (packComponents .binary64 s e m) =
      if e.toNat = 2047 then if m.toNat = 0 then .infinity s else .notANumber
      else if e.toNat = 0 then
        if h : m.toNat = 0 then .zero s else .finite s m.toNat (-1074) (Nat.pos_of_ne_zero h)
      else .finite s (binade + m.toNat) (e.toNat - 1075) (by rw [binade_eq]; omega) := by
  have hones : e = -1#11 ↔ e.toNat = 2047 := BitVec.toNat_inj.symm
  have hzeros : e = 0#11 ↔ e.toNat = 0 := BitVec.toNat_inj.symm
  have hmantissa : m = 0#52 ↔ m.toNat = 0 := BitVec.toNat_inj.symm
  simp only [unpack, unpackMantissa_packComponents, unpackExponent_packComponents,
    unpackSign_packComponents, Sign.ofBitVec_toBitVec, toNat_one_append, hones, hzeros, hmantissa]
  split
  · rfl
  · split
    · rename_i h
      rw [h]
      rfl
    · rfl

theorem unpack_pattern_zero (negative : Bool) :
    unpack .binary64 (pattern negative 0) = .zero (sign negative) := by
  cases negative <;> rfl

theorem unpack_pattern_infinity (negative : Bool) :
    unpack .binary64 (pattern negative infinity) = .infinity (sign negative) := by
  cases negative <;> rfl

theorem unpack_pattern_beyond (negative : Bool) {rank : Nat} (h : infinity < rank)
    (hlt : rank < signBit) : unpack .binary64 (pattern negative rank) = .notANumber := by
  rw [infinity_eq] at h
  rw [signBit_eq] at hlt
  have hexponent : rank / binade % 2 ^ 11 = 2047 := by
    rw [binade_eq]
    omega
  have hmantissa : rank % 2 ^ 52 ≠ 0 := by omega
  rw [pattern, unpack_packComponents]
  simp only [BitVec.toNat_ofNat]
  rw [if_pos hexponent, if_neg hmantissa]

theorem unpack_pattern_finite (negative : Bool) {rank : Nat} (hpos : 0 < rank)
    (hlt : rank < infinity) :
    unpack .binary64 (pattern negative rank) =
      .finite (sign negative) (significand rank) (scale rank - 1074) (significand_pos hpos) := by
  have hexponent : rank / binade < 2047 := Nat.div_lt_of_lt_mul (by rwa [Nat.mul_comm])
  have hfield : rank / binade % 2 ^ 11 = rank / binade := Nat.mod_eq_of_lt (by omega)
  rw [pattern, unpack_packComponents]
  simp only [BitVec.toNat_ofNat, hfield]
  rw [if_neg (Nat.ne_of_lt hexponent)]
  by_cases hsmall : rank < binade
  · have hmantissa : rank % 2 ^ 52 = rank := Nat.mod_eq_of_lt hsmall
    simp only [hmantissa, significand_of_lt hsmall, scale, Nat.div_eq_of_lt hsmall]
    simp [Nat.ne_of_gt hpos]
  · rw [Nat.not_lt] at hsmall
    have hone : 1 ≤ rank / binade := Nat.div_pos hsmall (by decide)
    simp only [significand_of_le hsmall, scale]
    rw [if_neg (Nat.ne_of_gt hone)]
    congr 1
    omega

/-- Only a NaN can lose bits between its pattern and its meaning. -/
theorem pack_unpack_pattern (negative : Bool) {rank : Nat} (h : rank ≤ infinity) :
    pack .binary64 (unpack .binary64 (pattern negative rank)) = pattern negative rank := by
  have hbits : ¬ @isNaNBits .binary64 (pattern negative rank) = true := by
    simp only [isNaNBits, pattern, unpackExponent_packComponents, unpackMantissa_packComponents,
      decide_eq_true_eq, not_and, ne_eq, not_not]
    intro hexponent
    have hfield : rank / binade % 2 ^ 11 = 2047 := congrArg BitVec.toNat hexponent
    apply BitVec.eq_of_toNat_eq
    show rank % 2 ^ 52 = 0
    rw [infinity_eq] at h
    rw [binade_eq] at hfield
    omega
  rw [pack_unpack, if_neg hbits]

theorem pack_finite (negative : Bool) {rank : Nat} (hpos : 0 < rank) (hlt : rank < infinity) :
    pack .binary64
      (.finite (sign negative) (significand rank) (scale rank - 1074) (significand_pos hpos)) =
        pattern negative rank := by
  rw [← unpack_pattern_finite negative hpos hlt, pack_unpack_pattern negative (Nat.le_of_lt hlt)]

theorem neg_unpack_pattern (negative : Bool) (rank : Nat) :
    (unpack .binary64 (pattern negative rank)).neg =
      unpack .binary64 (pattern (!negative) rank) := by
  have hsign : sign (!negative) = -sign negative := by cases negative <;> rfl
  simp only [pattern, unpack_packComponents, hsign]
  split
  · split <;> rfl
  · split
    · split <;> rfl
    · rfl

/-! ## Numbers -/

theorem eq_of_toBits {x y : Float} (h : x.toBits.toBitVec = y.toBits.toBitVec) : x = y :=
  Float.toBits_inj.mp (UInt64.toBitVec_inj.mp h)

theorem toBits_eq_pattern (x : Float) :
    x.toBits.toBitVec = pattern (isNegative x) (rankOf x) := by
  have hlt := x.toBits.toNat_lt
  apply BitVec.eq_of_toNat_eq
  rw [toNat_pattern _ (rankOf_lt_signBit x)]
  change x.toBits.toNat = _
  by_cases h : signBit ≤ x.toBits.toNat
  · have hnegative : isNegative x = true := decide_eq_true h
    rw [signBit_eq] at h
    rw [if_pos hnegative, rankOf, signBit_eq]
    omega
  · have hnegative : ¬ isNegative x = true := by simpa [isNegative] using h
    rw [if_neg hnegative, rankOf, Nat.mod_eq_of_lt (Nat.not_le.mp h)]

theorem toBits_toFloat (negative : Bool) {rank : Nat} (h : rank ≤ infinity) :
    (toFloat negative rank).toBits.toBitVec = pattern negative rank := by
  have hword : (UInt64.ofNat (if negative then signBit + rank else rank)).toBitVec =
      pattern negative rank := by
    have hlt := lt_signBit h
    apply BitVec.eq_of_toNat_eq
    rw [toNat_pattern negative hlt]
    rw [signBit_eq] at hlt ⊢
    change _ % 2 ^ 64 = _
    split <;> omega
  change pack .binary64 (unpack .binary64 (UInt64.toBitVec _)) = _
  rw [hword, pack_unpack_pattern negative h]

section Coordinates

variable (negative : Bool) {rank : Nat} (h : rank ≤ infinity)
include h

theorem coordinates_toFloat :
    negative = isNegative (toFloat negative rank) ∧ rank = rankOf (toFloat negative rank) := by
  have hbits := toBits_eq_pattern (toFloat negative rank)
  rw [toBits_toFloat negative h] at hbits
  exact pattern_inj (lt_signBit h) (rankOf_lt_signBit _) hbits

@[simp] theorem isNegative_toFloat : isNegative (toFloat negative rank) = negative :=
  (coordinates_toFloat negative h).1.symm

@[simp] theorem rankOf_toFloat : rankOf (toFloat negative rank) = rank :=
  (coordinates_toFloat negative h).2.symm

theorem neg_toFloat : -toFloat negative rank = toFloat (!negative) rank := by
  apply eq_of_toBits
  rw [toBits_toFloat _ h]
  change pack .binary64
    (unpack .binary64 (toFloat negative rank).toBits.toBitVec).neg = _
  rw [toBits_toFloat _ h, neg_unpack_pattern, pack_unpack_pattern _ h]

end Coordinates

/-- A number that is not a NaN is given by its sign and its rank. -/
theorem toFloat_rankOf {x : Float} (h : rankOf x ≤ infinity) :
    toFloat (isNegative x) (rankOf x) = x := by
  apply eq_of_toBits
  rw [toBits_toFloat _ h, toBits_eq_pattern]

theorem unpack_toModel (x : Float) :
    x.toModel.unpack = unpack .binary64 (pattern (isNegative x) (rankOf x)) := by
  rw [← toBits_eq_pattern]
  rfl

/-- The meaning of a number that is not a NaN, in ascending order of ranks. -/
theorem unpack_cases {x : Float} (h : rankOf x ≤ infinity) :
    (rankOf x = 0 ∧ x.toModel.unpack = .zero (sign (isNegative x))) ∨
    (∃ hpos : 0 < rankOf x, rankOf x < infinity ∧
      x.toModel.unpack = .finite (sign (isNegative x)) (significand (rankOf x))
        (scale (rankOf x) - 1074) (significand_pos hpos)) ∨
    (rankOf x = infinity ∧ x.toModel.unpack = .infinity (sign (isNegative x))) := by
  rw [unpack_toModel]
  rcases Nat.eq_zero_or_pos (rankOf x) with hzero | hpos
  · rw [hzero]
    exact .inl ⟨rfl, unpack_pattern_zero _⟩
  · rcases Nat.lt_or_eq_of_le h with hlt | heq
    · exact .inr (.inl ⟨hpos, hlt, unpack_pattern_finite _ hpos hlt⟩)
    · rw [heq]
      exact .inr (.inr ⟨rfl, unpack_pattern_infinity _⟩)

theorem unpack_of_infinity_lt {x : Float} (h : infinity < rankOf x) :
    x.toModel.unpack = .notANumber := by
  rw [unpack_toModel, unpack_pattern_beyond _ h (rankOf_lt_signBit x)]

theorem isFinite_iff {x : Float} : x.isFinite = true ↔ rankOf x < infinity := by
  change x.toModel.unpack.isFinite = true ↔ _
  rcases Nat.lt_or_ge infinity (rankOf x) with hgt | hle
  · rw [unpack_of_infinity_lt hgt]
    exact iff_of_false Bool.false_ne_true (Nat.lt_asymm hgt)
  · rcases unpack_cases hle with ⟨hrank, hx⟩ | ⟨hpos, hrank, hx⟩ | ⟨hrank, hx⟩
    · rw [hx, hrank]
      exact iff_of_true rfl (by decide)
    · rw [hx]
      exact iff_of_true rfl hrank
    · rw [hx, hrank]
      exact iff_of_false Bool.false_ne_true (Nat.lt_irrefl _)

theorem isNaN_iff {x : Float} : x.isNaN = true ↔ infinity < rankOf x := by
  change x.toModel.unpack.isNaN = true ↔ _
  rcases Nat.lt_or_ge infinity (rankOf x) with hgt | hle
  · rw [unpack_of_infinity_lt hgt]
    exact iff_of_true rfl hgt
  · refine iff_of_false ?_ (Nat.not_lt.mpr hle)
    rcases unpack_cases hle with ⟨-, hx⟩ | ⟨hpos, -, hx⟩ | ⟨-, hx⟩ <;> rw [hx] <;>
      exact Bool.false_ne_true

theorem rankOf_le_infinity {x : Float} (h : x.isNaN = false) : rankOf x ≤ infinity := by
  rw [← Nat.not_lt, ← isNaN_iff, h]
  exact Bool.false_ne_true

theorem isNaN_eq_false {x : Float} (h : x.isFinite = true) : x.isNaN = false := by
  rw [isFinite_iff] at h
  rw [← Bool.not_eq_true, isNaN_iff]
  exact Nat.lt_asymm h

/-! ## Zero -/

theorem zero_eq : (0 : Float) = toFloat false 0 := by decide

theorem neg_zero_eq : (-0 : Float) = toFloat true 0 := by decide

/-- A zero plus zero has no sign. -/
theorem toFloat_zero_add_zero (negative : Bool) : toFloat negative 0 + 0 = 0 := by
  cases negative <;> decide

/-- Adding zero changes no other finite number. -/
theorem toFloat_add_zero (negative : Bool) {rank : Nat} (hpos : 0 < rank) (h : rank < infinity) :
    toFloat negative rank + 0 = toFloat negative rank := by
  apply eq_of_toBits
  rw [toBits_toFloat _ (Nat.le_of_lt h)]
  change pack .binary64 (UnpackedFloat.add .binary64
    (unpack .binary64 (toFloat negative rank).toBits.toBitVec)
    (unpack .binary64 (0 : Float).toBits.toBitVec)) = _
  rw [zero_eq, toBits_toFloat _ (Nat.le_of_lt h), toBits_toFloat _ (Nat.zero_le _),
    unpack_pattern_zero, unpack_pattern_finite _ hpos h]
  exact pack_finite negative hpos h

end CellFormula.Binary64
