import CellFormula.Unicode.CanonicalForm
import CellFormula.Unicode.Mark

/-! # Canonical form around a character that no mark moves past

Only marks have a combining class, and every other character without a decomposition splits the
canonical form of a text in two. Two texts can be joined in canonical form if that of the second
starts with a character of class zero.
-/

namespace CellFormula.Unicode

/-! ## Sets of code points as numbers -/

/-- The number whose bits are the code points in the ranges. A bit is looked up without a walk
through the table, which keeps checks of many code points small. -/
def bits (ranges : List (Nat × Nat)) : Nat :=
  ranges.foldr (fun r n => (Nat.pow 2 (r.2 + 1 - r.1) - 1) <<< r.1 ||| n) 0

theorem testBit_bits (ranges : List (Nat × Nat)) (n : Nat) :
    (bits ranges).testBit n = ranges.any fun r => decide (r.1 ≤ n) && decide (n ≤ r.2) := by
  induction ranges with
  | nil => exact Nat.zero_testBit n
  | cons r rest ih =>
      have hrange : (decide (r.1 ≤ n) && decide (n - r.1 < r.2 + 1 - r.1)) =
          (decide (r.1 ≤ n) && decide (n ≤ r.2)) := by
        rw [Bool.eq_iff_iff]
        simp only [Bool.and_eq_true, decide_eq_true_eq]
        omega
      rw [List.any_cons, ← ih, ← hrange, ← Nat.testBit_two_pow_sub_one, ← Nat.testBit_shiftLeft,
        ← Nat.testBit_or]
      rfl

theorem RangeSet.contains_eq_testBit (s : RangeSet) (c : Char) :
    s.contains c = (bits s.ranges).testBit c.toNat := by
  rw [contains, search_eq_any s.ascending, testBit_bits]

/-- The ranges of one code point each. -/
def singles (codes : List Nat) : List (Nat × Nat) :=
  codes.map fun n => (n, n)

theorem testBit_singles {codes : List Nat} {n : Nat} :
    (bits (singles codes)).testBit n = true ↔ n ∈ codes := by
  rw [testBit_bits, singles, List.any_map, List.any_eq_true]
  constructor
  · rintro ⟨m, hm, heq⟩
    simp only [Function.comp_apply, Bool.and_eq_true, decide_eq_true_eq] at heq
    rwa [Nat.le_antisymm heq.2 heq.1]
  · intro hn
    exact ⟨n, hn, by simp⟩

/-! ## Combining classes -/

theorem exists_run_of_classIn_ne_zero {n : Nat} {runs : List (Nat × Nat × Nat)}
    (h : classIn n runs ≠ 0) : ∃ run ∈ runs, run.1 ≤ n ∧ n ≤ run.2.1 := by
  fun_induction classIn n runs with
  | case1 => exact absurd rfl h
  | case2 => exact absurd rfl h
  | case3 first last k rest hfirst hlast =>
      exact ⟨_, List.mem_cons_self, Nat.not_lt.mp hfirst, hlast⟩
  | case4 first last k rest hfirst hlast ih =>
      obtain ⟨run, hrun, hbounds⟩ := ih h
      exact ⟨run, List.mem_cons_of_mem _ hrun, hbounds⟩

theorem bits_combiningRuns_or_mark :
    bits (combiningRuns.map fun run => (run.1, run.2.1)) ||| bits mark.ranges =
      bits mark.ranges := by
  decide +kernel

/-- Only marks have a combining class. -/
theorem combiningClass_eq_zero {c : Char} (h : isMark c = false) : combiningClass c = 0 := by
  apply Decidable.byContradiction
  intro hclass
  obtain ⟨run, hrun, hfirst, hlast⟩ := exists_run_of_classIn_ne_zero hclass
  have hbit : (bits (combiningRuns.map fun run => (run.1, run.2.1))).testBit c.toNat = true := by
    rw [testBit_bits, List.any_map, List.any_eq_true]
    exact ⟨run, hrun, by simp [hfirst, hlast]⟩
  have hmark : isMark c = true := by
    rw [isMark, RangeSet.contains_eq_testBit, ← bits_combiningRuns_or_mark,
      Nat.testBit_or, hbit, Bool.true_or]
  rw [h] at hmark
  cases hmark

/-! ## Decompositions -/

/-- The characters that have a decomposition in the table. -/
def decomposed : RangeSet where
  ranges := singles (decompositions.map Prod.fst)

theorem decompositions_proper :
    (decompositions.all fun p => p.2 != [p.1] && p.1 != 0) = true := by
  decide +kernel

theorem mem_of_decompositionIn? {n : Nat} {parts : List Nat} {table : List (Nat × List Nat)}
    (h : decompositionIn? n table = some parts) : (n, parts) ∈ table := by
  induction table with
  | nil => cases h
  | cons entry rest ih =>
      rw [decompositionIn?] at h
      split at h
      · cases h
      · split at h
        · rename_i heq
          cases h
          exact heq ▸ List.mem_cons_self
        · exact List.mem_cons_of_mem _ (ih h)

theorem lt_of_ascendingAbove {bound : Nat} {codes : List Nat}
    (h : RangeSet.ascendingAbove (some bound) (singles codes) = true) :
    ∀ n ∈ codes, bound < n := by
  induction codes generalizing bound with
  | nil => exact List.forall_mem_nil _
  | cons m rest ih =>
      simp only [singles, List.map_cons, RangeSet.ascendingAbove, Option.all_some,
        Bool.and_eq_true, decide_eq_true_eq] at h
      obtain ⟨⟨hm, -⟩, hrest⟩ := h
      refine List.forall_mem_cons.mpr ⟨hm, fun n hn => Nat.lt_trans hm (ih hrest n hn)⟩

/-- In an ascending table, stopping early loses no entry. -/
theorem decompositionIn?_of_mem {n : Nat} {parts : List Nat} {table : List (Nat × List Nat)}
    {bound : Option Nat}
    (h : RangeSet.ascendingAbove bound (singles (table.map Prod.fst)) = true)
    (hmem : (n, parts) ∈ table) : decompositionIn? n table = some parts := by
  induction table generalizing bound with
  | nil => cases hmem
  | cons entry rest ih =>
      simp only [singles, List.map_cons, RangeSet.ascendingAbove, Bool.and_eq_true] at h
      rw [decompositionIn?]
      rcases List.mem_cons.mp hmem with rfl | hmem
      · rw [if_neg (Nat.lt_irrefl n), if_pos rfl]
      · have hlt := lt_of_ascendingAbove h.2 n (List.mem_map_of_mem hmem)
        rw [if_neg (Nat.lt_asymm hlt), if_neg (Nat.ne_of_gt hlt), ih h.2 hmem]

theorem decomposed_contains_iff {c : Char} :
    decomposed.contains c = true ↔ ∃ parts, (c.toNat, parts) ∈ decompositions := by
  rw [RangeSet.contains_eq_testBit, decomposed, testBit_singles, List.mem_map]
  constructor
  · rintro ⟨⟨n, parts⟩, hmem, rfl⟩
    exact ⟨parts, hmem⟩
  · rintro ⟨parts, hmem⟩
    exact ⟨_, hmem, rfl⟩

/-- Outside the Hangul syllables, a character is its own only part if the table does not have
it. -/
theorem decompose_eq_singleton_iff {c : Char} (h : hangulParts? c.toNat = none) :
    decompose c = [c] ↔ decomposed.contains c = false := by
  rw [← Bool.not_eq_true, decomposed_contains_iff]
  simp only [decompose, h]
  constructor
  · rintro hc ⟨parts, hmem⟩
    rw [decompositionIn?_of_mem decomposed.ascending hmem] at hc
    obtain ⟨n, rfl, hn⟩ := List.map_eq_singleton_iff.mp hc
    have hproper := List.all_eq_true.mp decompositions_proper _ hmem
    simp only [Bool.and_eq_true, bne_iff_ne, ne_eq, List.cons.injEq, and_true] at hproper
    rw [← hn, Char.ofNat] at hproper
    by_cases hvalid : n.isValidChar
    · rw [dif_pos hvalid] at hproper
      exact hproper.1 rfl
    · rw [dif_neg hvalid] at hproper
      exact hproper.2 rfl
  · intro hnone
    cases hparts : decompositionIn? c.toNat decompositions with
    | none => rfl
    | some parts => exact absurd ⟨parts, mem_of_decompositionIn? hparts⟩ hnone

/-! ## Texts -/

variable {c : Char}

theorem insertByClass_append_cons (h : combiningClass c = 0) (a : Char) (before after : List Char) :
    insertByClass a (before ++ c :: after) = insertByClass a before ++ c :: after := by
  induction before with
  | nil => simp [insertByClass, h]
  | cons d before ih =>
      rw [List.cons_append, insertByClass, insertByClass]
      split
      · rw [ih, List.cons_append]
      · rfl

/-- A character of the least nonzero class is not moved either: no class lies between zero and
its own. -/
theorem insertByClass_of_class_le_one (h : combiningClass c ≤ 1) (cs : List Char) :
    insertByClass c cs = c :: cs := by
  cases cs with
  | nil => rfl
  | cons d cs =>
      rw [insertByClass, if_neg]
      omega

theorem insertByClass_of_class_zero (h : combiningClass c = 0) (cs : List Char) :
    insertByClass c cs = c :: cs :=
  insertByClass_of_class_le_one (by omega) cs

theorem reorder_append_cons (h : combiningClass c = 0) (before after : List Char) :
    reorder (before ++ c :: after) = reorder before ++ c :: reorder after := by
  induction before with
  | nil => exact insertByClass_of_class_zero h (reorder after)
  | cons a before ih =>
      show insertByClass a (reorder (before ++ c :: after)) = _
      rw [ih, insertByClass_append_cons h]
      rfl

theorem length_insertByClass (a : Char) (cs : List Char) :
    (insertByClass a cs).length = cs.length + 1 := by
  induction cs with
  | nil => rfl
  | cons d cs ih =>
      rw [insertByClass]
      split
      · rw [List.length_cons, ih, List.length_cons]
      · rfl

theorem length_reorder (cs : List Char) : (reorder cs).length = cs.length := by
  induction cs with
  | nil => rfl
  | cons a cs ih =>
      show (insertByClass a (reorder cs)).length = _
      rw [length_insertByClass, ih, List.length_cons]

/-- A character that is its own canonical form has no decomposition. -/
theorem decompose_eq_of_canonicalForm (h : canonicalForm [c] = [c]) : decompose c = [c] := by
  rw [canonicalForm, List.flatMap_singleton] at h
  have hlength := length_reorder (decompose c)
  rw [h] at hlength
  obtain ⟨d, hd⟩ := List.length_eq_one_iff.mp hlength.symm
  rw [hd] at h ⊢
  exact h

theorem canonicalForm_cons (hclass : combiningClass c ≤ 1) (hc : decompose c = [c])
    (cs : List Char) : canonicalForm (c :: cs) = c :: canonicalForm cs := by
  rw [canonicalForm, List.flatMap_cons, hc]
  exact insertByClass_of_class_le_one hclass (canonicalForm cs)

/-- A character that has no decomposition and is no mark splits the canonical form of a text. -/
theorem canonicalForm_append_cons (hmark : isMark c = false) (hc : decompose c = [c])
    (before after : List Char) :
    canonicalForm (before ++ c :: after) = canonicalForm before ++ c :: canonicalForm after := by
  simp only [canonicalForm, List.flatMap_append, List.flatMap_cons, hc, List.singleton_append]
  exact reorder_append_cons (combiningClass_eq_zero hmark) _ _

/-- A character of nonzero class never lets one of class zero past it. -/
theorem combiningClass_of_head?_insertByClass {a : Char} {cs : List Char}
    (hc : c ∈ (insertByClass a cs).head?) (h : combiningClass c = 0) : combiningClass a = 0 := by
  cases cs with
  | nil =>
      cases hc
      exact h
  | cons d cs =>
      rw [insertByClass] at hc
      split at hc
      · rename_i hpast
        cases hc
        exact absurd h hpast.1
      · cases hc
        exact h

/-- Marks are not moved into a text that is still headed by a character of class zero when it is in
order. -/
theorem reorder_append (before : List Char) {after : List Char}
    (h : ∀ c ∈ (reorder after).head?, combiningClass c = 0) :
    reorder (before ++ after) = reorder before ++ reorder after := by
  cases after with
  | nil => simp [reorder]
  | cons a after =>
      cases hhead : (reorder (a :: after)).head? with
      | none =>
          have hnil := List.head?_eq_none_iff.mp hhead
          have hlength := length_reorder (a :: after)
          rw [hnil] at hlength
          cases hlength
      | some c =>
          have ha : combiningClass a = 0 := combiningClass_of_head?_insertByClass hhead (h c hhead)
          have hfront : reorder (a :: after) = a :: reorder after :=
            insertByClass_of_class_zero ha (reorder after)
          rw [hfront, reorder_append_cons ha]

theorem canonicalForm_append (before : List Char) {after : List Char}
    (h : ∀ c ∈ (canonicalForm after).head?, combiningClass c = 0) :
    canonicalForm (before ++ after) = canonicalForm before ++ canonicalForm after := by
  rw [canonicalForm, List.flatMap_append]
  exact reorder_append _ h

end CellFormula.Unicode
