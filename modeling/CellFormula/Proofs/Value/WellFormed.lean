import CellFormula.Coercion
import CellFormula.Proofs.Number.Rank

/-! # Well-formed values

Numbers that a formula can yield are finite and never a negative zero, and lists that it can yield
have elements. Such a value always stands for a scalar.
-/

namespace CellFormula

/-- A number that a calculation can end in. -/
def IsPlainNumber (x : Float) : Prop :=
  x.isFinite = true ∧ x ≠ -0

def Scalar.IsPlain : Scalar → Prop
  | number x => IsPlainNumber x
  | _ => True

namespace Value

/-- Induction on values, over all elements of a list at once. -/
@[induction_eliminator]
theorem induction {motive : Value → Prop} (scalar : ∀ s, motive (.scalar s))
    (list : ∀ items, (∀ v ∈ items, motive v) → motive (.list items)) (v : Value) : motive v :=
  match v with
  | .scalar s => scalar s
  | .list items => list items fun v _ => induction scalar list v

/-- Every list has elements, and every number is plain. -/
inductive IsWellFormed : Value → Prop where
  | scalar {s : Scalar} (plain : s.IsPlain) : IsWellFormed (.scalar s)
  | list {items : List Value} (nonempty : items ≠ []) (each : ∀ v ∈ items, v.IsWellFormed) :
      IsWellFormed (.list items)

mutual

/-- The greatest number of lists inside one another, with what each scalar adds to it. -/
def depth (leaf : Scalar → Nat) : Value → Nat
  | scalar s => leaf s
  | list items => depthEach leaf items + 1

def depthEach (leaf : Scalar → Nat) : List Value → Nat
  | [] => 0
  | item :: rest => max (item.depth leaf) (depthEach leaf rest)

end

theorem depthEach_le_iff {leaf : Scalar → Nat} {items : List Value} {n : Nat} :
    depthEach leaf items ≤ n ↔ ∀ v ∈ items, v.depth leaf ≤ n := by
  induction items with
  | nil => exact ⟨fun _ v hv => absurd hv List.not_mem_nil, fun _ => Nat.zero_le n⟩
  | cons item rest ih => rw [depthEach, Nat.max_le, ih, List.forall_mem_cons]

theorem IsWellFormed.exists_firstScalar {v : Value} (h : v.IsWellFormed) :
    ∃ s, v.firstScalar = .ok s ∧ s.IsPlain := by
  induction h with
  | @scalar s plain => exact ⟨s, by rw [firstScalar], plain⟩
  | @list items nonempty each ih =>
      cases items with
      | nil => exact absurd rfl nonempty
      | cons item rest =>
          rw [firstScalar]
          exact ih item List.mem_cons_self

theorem IsWellFormed.isPlain_firstScalar {v : Value} {s : Scalar} (h : v.IsWellFormed)
    (hs : v.firstScalar = .ok s) : s.IsPlain := by
  obtain ⟨t, ht, hplain⟩ := h.exists_firstScalar
  rw [hs] at ht
  cases ht
  exact hplain

end Value

/-! ## Plain numbers -/

theorem isPlainNumber_iff {x : Float} :
    IsPlainNumber x ↔ Binary64.rankOf x < Binary64.infinity ∧
      (Binary64.isNegative x = true → 0 < Binary64.rankOf x) := by
  rw [IsPlainNumber, Binary64.isFinite_iff]
  refine and_congr_right fun hlt => ?_
  rw [ne_eq, Binary64.neg_zero_eq]
  constructor
  · intro hne hnegative
    refine Nat.pos_of_ne_zero fun hzero => hne ?_
    rw [← Binary64.toFloat_rankOf (Nat.le_of_lt hlt), hnegative, hzero]
  · rintro hpos rfl
    rw [Binary64.isNegative_toFloat _ (Nat.zero_le _),
      Binary64.rankOf_toFloat _ (Nat.zero_le _)] at hpos
    exact absurd (hpos rfl) (Nat.lt_irrefl 0)

theorem isPlainNumber_toFloat {negative : Bool} {rank : Nat} (h : rank < Binary64.infinity)
    (hpos : negative = true → 0 < rank) : IsPlainNumber (Binary64.toFloat negative rank) := by
  rw [isPlainNumber_iff, Binary64.isNegative_toFloat _ (Nat.le_of_lt h),
    Binary64.rankOf_toFloat _ (Nat.le_of_lt h)]
  exact ⟨h, hpos⟩

theorem isPlainNumber_zero : IsPlainNumber 0 := by
  rw [Binary64.zero_eq]
  exact isPlainNumber_toFloat (by decide) nofun

/-- A plain number is made of its sign and its rank. -/
theorem IsPlainNumber.exists_toFloat {x : Float} (h : IsPlainNumber x) :
    ∃ negative rank, x = Binary64.toFloat negative rank ∧ rank < Binary64.infinity ∧
      (negative = true → 0 < rank) := by
  obtain ⟨hlt, hpos⟩ := isPlainNumber_iff.mp h
  exact ⟨_, _, (Binary64.toFloat_rankOf (Nat.le_of_lt hlt)).symm, hlt, hpos⟩

/-- Adding zero to a finite number makes it plain, and leaves a plain number as it is. -/
theorem isPlainNumber_add_zero {x : Float} (h : x.isFinite = true) : IsPlainNumber (x + 0) := by
  rw [Binary64.isFinite_iff] at h
  rw [← Binary64.toFloat_rankOf (Nat.le_of_lt h)]
  rcases Nat.eq_zero_or_pos (Binary64.rankOf x) with hzero | hpos
  · rw [hzero, Binary64.toFloat_zero_add_zero]
    exact isPlainNumber_zero
  · rw [Binary64.toFloat_add_zero _ hpos h]
    exact isPlainNumber_toFloat h fun _ => hpos

theorem IsPlainNumber.add_zero {x : Float} (h : IsPlainNumber x) : x + 0 = x := by
  obtain ⟨negative, rank, rfl, hlt, hpos⟩ := h.exists_toFloat
  rcases Nat.eq_zero_or_pos rank with rfl | hrank
  · cases negative with
    | false => rw [Binary64.toFloat_zero_add_zero, Binary64.zero_eq]
    | true => exact absurd (hpos rfl) (Nat.lt_irrefl 0)
  · exact Binary64.toFloat_add_zero _ hrank hlt

theorem IsPlainNumber.ofNumber_eq {x : Float} (h : IsPlainNumber x) :
    Value.ofNumber x = .number x := by
  rw [Value.ofNumber, if_pos h.1, h.add_zero]

theorem IsPlainNumber.isNaN_eq_false {x : Float} (h : IsPlainNumber x) : x.isNaN = false :=
  Binary64.isNaN_eq_false h.1

end CellFormula
