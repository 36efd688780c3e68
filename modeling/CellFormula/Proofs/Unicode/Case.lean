import CellFormula.Proofs.Unicode.CanonicalForm
import CellFormula.Unicode.Alphabetic
import CellFormula.Unicode.Case
import CellFormula.Unicode.Numeric

/-! # Letters and their lower-case forms

What the tables of characters say about a letter that differs from its lower-case form: the form
is a letter and its own lower-case form, neither of the two is a mark, and if the first has no
decomposition then neither has the second.
-/

namespace CellFormula.Unicode

/-! ## Pairs of code points -/

/-- The code points of a run, each with that of its lower-case form. -/
def CaseRun.pairs (run : CaseRun) : List (Nat × Nat) :=
  (List.range ((run.last - run.first) / run.step + 1)).map fun i =>
    (run.first + run.step * i, (run.first + run.step * i + run.shift).toNat)

def casePairs : List (Nat × Nat) :=
  lowercaseRuns.flatMap CaseRun.pairs

theorem CaseRun.mem_pairs {run : CaseRun} {n : Nat} (hfirst : run.first ≤ n) (hlast : n ≤ run.last)
    (hstep : (n - run.first) % run.step = 0) : (n, (n + run.shift).toNat) ∈ run.pairs := by
  have hn : run.first + run.step * ((n - run.first) / run.step) = n := by
    have hdiv := Nat.div_add_mod (n - run.first) run.step
    omega
  refine List.mem_map.mpr ⟨(n - run.first) / run.step, ?_, ?_⟩
  · rw [List.mem_range, Nat.lt_succ_iff]
    exact Nat.div_le_div_right (Nat.sub_le_sub_right hlast _)
  · rw [hn, ← Int.natCast_mul, ← Int.natCast_add, hn]

theorem shiftIn_cases (n : Nat) (runs : List CaseRun) :
    shiftIn n runs = 0 ∨ (n, (n + shiftIn n runs).toNat) ∈ runs.flatMap CaseRun.pairs := by
  induction runs with
  | nil => exact .inl rfl
  | cons run rest ih =>
      rw [shiftIn, List.flatMap_cons]
      split
      · exact .inl rfl
      · rename_i hfirst
        split
        · rename_i hlast
          split
          · rename_i hstep
            exact .inr (List.mem_append_left _
              (CaseRun.mem_pairs (Nat.not_lt.mp hfirst) hlast hstep))
          · exact .inl rfl
        · exact ih.imp_right (List.mem_append_right _)

/-- The code point of a character that is no Hangul syllable. -/
def isPlainCode (n : Nat) : Bool :=
  Nat.blt n 0xAC00 || (Nat.blt 0xDFFF n && Nat.blt n 0x110000)

theorem isValidChar_of_isPlainCode {n : Nat} (h : isPlainCode n = true) : n.isValidChar := by
  simp only [isPlainCode, Bool.or_eq_true, Bool.and_eq_true, Nat.blt_eq] at h
  unfold Nat.isValidChar
  omega

theorem hangulParts?_of_isPlainCode {n : Nat} (h : isPlainCode n = true) :
    hangulParts? n = none := by
  simp only [isPlainCode, Bool.or_eq_true, Bool.and_eq_true, Nat.blt_eq] at h
  unfold hangulParts?
  split
  · rfl
  · rw [if_pos (by omega)]

/-- What the tables say about the code points of a letter and of its lower-case form. -/
def tablesAgree (p : Nat × Nat) : Bool :=
  (bits alphabetic.ranges).testBit p.2 &&
    ((bits numeric.ranges).testBit p.1 || !(bits numeric.ranges).testBit p.2) &&
    !(bits mark.ranges).testBit p.1 && !(bits mark.ranges).testBit p.2 &&
    !(bits (singles (casePairs.map Prod.fst))).testBit p.2 &&
    ((bits decomposed.ranges).testBit p.1 || !(bits decomposed.ranges).testBit p.2)

theorem casePairs_checked :
    (casePairs.all fun p => isPlainCode p.1 && isPlainCode p.2 && tablesAgree p) = true := by
  decide +kernel

theorem checked_of_mem {p : Nat × Nat} (h : p ∈ casePairs) :
    (isPlainCode p.1 = true ∧ isPlainCode p.2 = true) ∧ tablesAgree p = true := by
  have hchecked := List.all_eq_true.mp casePairs_checked p h
  rwa [Bool.and_eq_true, Bool.and_eq_true] at hchecked

/-- A letter that differs from its lower-case form is paired with it. -/
theorem mem_casePairs {c : Char} (h : lowercase c ≠ c) :
    (c.toNat, (lowercase c).toNat) ∈ casePairs := by
  rcases shiftIn_cases c.toNat lowercaseRuns with hzero | hmem
  · rw [lowercase, hzero, Int.add_zero, Int.toNat_natCast, Char.ofNat_toNat] at h
    exact absurd rfl h
  · have hvalid := isValidChar_of_isPlainCode (checked_of_mem hmem).1.2
    have hcode : (lowercase c).toNat = (c.toNat + shiftIn c.toNat lowercaseRuns).toNat := by
      rw [lowercase, Char.ofNat, dif_pos hvalid]
      rfl
    rw [hcode]
    exact hmem

/-! ## Pairs of letters -/

/-- A letter and its lower-case form, if they differ. -/
structure IsCasePair (c l : Char) : Prop where
  isAlphabetic : isAlphabetic l = true
  isNumeric : isNumeric c = false → isNumeric l = false
  notMark : isMark c = false
  notMark_lower : isMark l = false
  lowercase_lower : lowercase l = l
  decompose_lower : decompose c = [c] → decompose l = [l]

theorem isCasePair_lowercase {c : Char} (h : lowercase c ≠ c) : IsCasePair c (lowercase c) := by
  obtain ⟨⟨hc, hl⟩, hagree⟩ := checked_of_mem (mem_casePairs h)
  simp only [tablesAgree, ← RangeSet.contains_eq_testBit, Bool.and_eq_true, Bool.not_eq_true',
    Bool.or_eq_true] at hagree
  obtain ⟨⟨⟨⟨⟨halphabetic, hnumeric⟩, hmark⟩, hmark'⟩, hsmall⟩, hdecomposed⟩ := hagree
  refine ⟨halphabetic, ?_, hmark, hmark', ?_, ?_⟩
  · intro hnone
    exact hnumeric.resolve_left (Bool.eq_false_iff.mp hnone)
  · apply Decidable.byContradiction
    intro hne
    rw [testBit_singles.mpr (List.mem_map_of_mem (mem_casePairs hne))] at hsmall
    cases hsmall
  · rw [decompose_eq_singleton_iff (hangulParts?_of_isPlainCode hc),
      decompose_eq_singleton_iff (hangulParts?_of_isPlainCode hl)]
    intro hnone
    exact hdecomposed.resolve_left (Bool.eq_false_iff.mp hnone)

end CellFormula.Unicode
