import CellFormula.Comparison
import CellFormula.Proofs.Number.Rank

/-! # The order of numbers

Numbers that are not NaN are ordered by their ranks, those of negative numbers counted downwards
from zero.
-/

namespace CellFormula.Binary64

open Float.Model (UnpackedFloat)

/-- The place of a number in the order; both zeros have the same. -/
def place (x : Float) : Int :=
  if isNegative x then -(rankOf x : Int) else rankOf x

theorem place_toFloat (negative : Bool) {rank : Nat} (h : rank ≤ infinity) :
    place (toFloat negative rank) = if negative then -(rank : Int) else rank := by
  rw [place, isNegative_toFloat _ h, rankOf_toFloat _ h]

theorem lt_of_scale_lt {r r' : Nat} (h : scale r < scale r') : r < r' := by
  have hr := scale_mul_binade_add_significand r
  have hr' := scale_mul_binade_add_significand r'
  have hlt := significand_lt r
  have hle := binade_le_significand (Nat.zero_lt_of_lt h)
  rw [binade_eq] at *
  omega

/-- Comparing scales first and significands second compares ranks. -/
theorem compare_scale_significand (r r' : Nat) :
    (compare ((scale r : Int) - 1074) ((scale r' : Int) - 1074)).then
      (compare (significand r) (significand r')) = compare (r : Int) r' := by
  rcases Nat.lt_trichotomy (scale r) (scale r') with hlt | heq | hgt
  · have hscale := Int.compare_eq_lt.mpr (show (scale r : Int) - 1074 < scale r' - 1074 by omega)
    have hrank := Int.compare_eq_lt.mpr (Int.ofNat_lt.mpr (lt_of_scale_lt hlt))
    rw [hscale, hrank]
    rfl
  · have hscale := Int.compare_eq_eq.mpr (show (scale r : Int) - 1074 = scale r' - 1074 by omega)
    have hr := scale_mul_binade_add_significand r
    have hr' := scale_mul_binade_add_significand r'
    rw [heq] at hr
    have hlt : significand r < significand r' ↔ r < r' := by omega
    have hgt : significand r' < significand r ↔ r' < r := by omega
    rw [hscale, Ordering.eq_then]
    simp only [Int.compare_eq_ite_lt, Nat.compare_eq_ite_lt, Int.ofNat_lt, hlt, hgt]
  · have hscale := Int.compare_eq_gt.mpr (show (scale r' : Int) - 1074 < scale r - 1074 by omega)
    have hrank := Int.compare_eq_gt.mpr (Int.ofNat_lt.mpr (lt_of_scale_lt hgt))
    rw [hscale, hrank]
    rfl

theorem compare_neg (a b : Int) : compare (-a) (-b) = (compare a b).swap := by
  rw [Int.compare_swap]
  simp only [Int.compare_eq_ite_lt, Int.neg_lt_neg_iff]

theorem compare_of_lt {a b : Int} (h : a < b) : compare a b = .lt :=
  Int.compare_eq_lt.mpr h

theorem compare_of_gt {a b : Int} (h : b < a) : compare a b = .gt :=
  Int.compare_eq_gt.mpr h

section NotNaN

variable {x y : Float} (hx : x.isNaN = false) (hy : y.isNaN = false)
include hx hy

theorem compare_unpack :
    x.toModel.unpack.compare y.toModel.unpack = some (compare (place x) (place y)) := by
  have hxle := rankOf_le_infinity hx
  have hyle := rankOf_le_infinity hy
  have hpos : 0 < infinity := by decide
  unfold place
  -- Zero, finite numbers and infinity are told apart by rank alone; only two finite numbers of one
  -- sign are compared by their fields.
  rcases unpack_cases hxle with ⟨hxrank, hxu⟩ | ⟨hxpos, hxlt, hxu⟩ | ⟨hxrank, hxu⟩ <;>
    rcases unpack_cases hyle with ⟨hyrank, hyu⟩ | ⟨hypos, hylt, hyu⟩ | ⟨hyrank, hyu⟩ <;>
    rw [hxu, hyu] <;>
    cases isNegative x <;> cases isNegative y <;>
    simp (disch := omega) [sign, UnpackedFloat.compare, compare_scale_significand, compare_neg,
      compare_of_lt, compare_of_gt, *] <;>
    rfl

theorem lt_iff_place_lt : x < y ↔ place x < place y := by
  change decide (x.toModel < y.toModel) = true ↔ _
  rw [decide_eq_true_iff]
  change (x.toModel.unpack.compare y.toModel.unpack == some .lt) = true ↔ _
  simp [compare_unpack hx hy, Int.compare_eq_lt]

theorem beq_iff_place_eq : (x == y) = true ↔ place x = place y := by
  change (x.toModel.unpack.compare y.toModel.unpack == some .eq) = true ↔ _
  simp [compare_unpack hx hy]

end NotNaN

/-- A number other than negative zero is below zero if its sign is negative. -/
theorem toFloat_lt_zero_iff {negative : Bool} {rank : Nat} (h : rank < infinity)
    (hpos : negative = true → 0 < rank) : toFloat negative rank < 0 ↔ negative = true := by
  have hfinite (negative : Bool) {rank : Nat} (h : rank < infinity) :
      (toFloat negative rank).isNaN = false := by
    apply isNaN_eq_false
    rwa [isFinite_iff, rankOf_toFloat _ (Nat.le_of_lt h)]
  rw [zero_eq, lt_iff_place_lt (hfinite negative h) (hfinite false (by decide)),
    place_toFloat _ (Nat.le_of_lt h), place_toFloat _ (Nat.zero_le _)]
  cases negative with
  | false => simp
  | true => simpa using hpos rfl

end CellFormula.Binary64

namespace CellFormula

theorem compareNumbers_eq_compare_place {x y : Float} (hx : x.isNaN = false)
    (hy : y.isNaN = false) :
    compareNumbers x y = compare (Binary64.place x) (Binary64.place y) := by
  simp only [compareNumbers, Int.compare_eq_ite_lt, Binary64.lt_iff_place_lt hx hy,
    Binary64.lt_iff_place_lt hy hx]

end CellFormula
