/-! # Sets of characters given by ranges of code points -/

namespace CellFormula.Unicode

/-- Every range is nonempty and lies strictly above `bound` and above the ranges before it. -/
def RangeSet.ascendingAbove : Option Nat → List (Nat × Nat) → Bool
  | _, [] => true
  | bound, (lo, hi) :: rest =>
    bound.all (· < lo) && decide (lo ≤ hi) && ascendingAbove (some hi) rest

/-- A set of code points: closed ranges, disjoint and in ascending order. -/
structure RangeSet where
  ranges : List (Nat × Nat)
  /-- The order that a search relies on to stop early. -/
  ascending : RangeSet.ascendingAbove none ranges = true := by decide +kernel

namespace RangeSet

/-- Look a code point up, stopping at the first range that lies beyond it. -/
def search (n : Nat) : List (Nat × Nat) → Bool
  | [] => false
  | (lo, hi) :: rest => if n < lo then false else if n ≤ hi then true else search n rest

/-- Whether the character belongs to the set. -/
def contains (s : RangeSet) (c : Char) : Bool :=
  search c.toNat s.ranges

theorem search_eq_false_of_lt {n b : Nat} (h : n ≤ b) {rs : List (Nat × Nat)}
    (hrs : ascendingAbove (some b) rs = true) : search n rs = false := by
  cases rs with
  | nil => rfl
  | cons r rest =>
      obtain ⟨lo, hi⟩ := r
      simp [ascendingAbove] at hrs
      simp [search, Nat.lt_of_le_of_lt h hrs.1.1]

theorem search_eq_any {n : Nat} {bound : Option Nat} {rs : List (Nat × Nat)}
    (h : ascendingAbove bound rs = true) :
    search n rs = rs.any fun r => decide (r.1 ≤ n) && decide (n ≤ r.2) := by
  induction rs generalizing bound with
  | nil => rfl
  | cons r rest ih =>
      obtain ⟨lo, hi⟩ := r
      simp only [ascendingAbove, Bool.and_eq_true, decide_eq_true_eq] at h
      obtain ⟨⟨-, hle⟩, hrest⟩ := h
      by_cases hlo : n < lo
      · have hnone := search_eq_false_of_lt (n := n) (by omega) hrest
        have hn : ¬ lo ≤ n := by omega
        rw [search, if_pos hlo, List.any_cons, ← ih hrest, hnone]
        simp [hn]
      · have hn : lo ≤ n := by omega
        by_cases hhi : n ≤ hi
        · simp [search, hlo, hhi, hn]
        · rw [search, if_neg hlo, if_neg hhi, List.any_cons, ← ih hrest]
          simp [hhi]

/-- Stopping early loses nothing: a character belongs to the set exactly when one of the ranges
covers it. -/
theorem contains_iff (s : RangeSet) (c : Char) :
    s.contains c = true ↔ ∃ r ∈ s.ranges, r.1 ≤ c.toNat ∧ c.toNat ≤ r.2 := by
  simp [contains, search_eq_any s.ascending]

end RangeSet

end CellFormula.Unicode
