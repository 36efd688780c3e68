import CellFormula.Collation.Order
import CellFormula.Proofs.Comparison.Preorder
import CellFormula.Proofs.Lexer.Words
import CellFormula.Proofs.Unicode.Case

/-! # Case on the first level

A letter and its lower-case form have the same place on the first level of sort keys, wherever they
stand in a text. The capital sharp s is the exception: it has no expansion, while the small one is
expanded to two letters.
-/

namespace CellFormula.Collation

open Unicode

/-! ## The weight of a letter -/

theorem isControl_eq_false_of_isAlphabetic {c : Char} (h : isAlphabetic c = true) :
    isControl c = false :=
  RangeSet.contains_eq_false_of_apart (by decide +kernel) h

theorem punctuation_not_isAlphabetic : (punctuation.any isAlphabetic) = false := by
  decide +kernel

theorem weight_of_letter {c : Char} (halphabetic : isAlphabetic c = true)
    (hnumeric : isNumeric c = false) : weight c = ⟨.letter, (lowercase c).toNat⟩ := by
  have hpunctuation : punctuation.idxOf? c = none := by
    rw [List.idxOf?_eq_none_iff]
    intro hmem
    have hany := List.any_eq_true.mpr ⟨c, hmem, halphabetic⟩
    rw [punctuation_not_isAlphabetic] at hany
    cases hany
  simp [weight, isWhiteSpace_eq_false_of_isAlphabetic halphabetic,
    isControl_eq_false_of_isAlphabetic halphabetic, hpunctuation,
    isDigit_eq_false_of_isAlphabetic halphabetic, hnumeric, halphabetic]

/-! ## Letters with an expansion -/

/-- The weights of a character that is not a mark on another. -/
def weightsOf (c : Char) : List Weight :=
  (baseElements c).filterMap Element.weight?

/-- The capital letters with an expansion, each with its lower-case form. -/
def expandedPairs : List (Char × Char) :=
  [('Æ', 'æ'), ('Œ', 'œ'), ('Ø', 'ø'), ('Ł', 'ł'), ('Đ', 'đ'), ('Ħ', 'ħ')]

theorem weightsOf_expandedPairs :
    ∀ p ∈ expandedPairs, lowercase p.1 = p.2 ∧ weightsOf p.1 = weightsOf p.2 := by
  decide +kernel

/-- All letters with an expansion. -/
def expanded : List Char :=
  'ß' :: (expandedPairs.map Prod.fst ++ expandedPairs.map Prod.snd)

theorem expansion?_eq_none {c : Char} (h : c ∉ expanded) : expansion? c = none := by
  unfold expansion?
  split
  all_goals first | rfl | exact absurd (by decide) h

/-- The code points of some characters, as bits. -/
def bitsOf (cs : List Char) : Nat :=
  bits (singles (cs.map Char.toNat))

theorem testBit_bitsOf {cs : List Char} {c : Char} :
    (bitsOf cs).testBit c.toNat = true ↔ c ∈ cs := by
  rw [bitsOf, testBit_singles, List.mem_map]
  constructor
  · rintro ⟨d, hd, heq⟩
    rwa [← Char.toNat_inj.mp heq]
  · intro hc
    exact ⟨c, hc, rfl⟩

theorem casePairs_expanded :
    (casePairs.all fun p =>
      !(bitsOf expanded).testBit p.1 && !(bitsOf expanded).testBit p.2 ||
        (bitsOf ('ẞ' :: expandedPairs.map Prod.fst)).testBit p.1) = true := by
  decide +kernel

theorem expansion?_cases {c : Char} (h : lowercase c ≠ c) :
    (expansion? c = none ∧ expansion? (lowercase c) = none) ∨
      c ∈ 'ẞ' :: expandedPairs.map Prod.fst := by
  have hpair := List.all_eq_true.mp casePairs_expanded _ (mem_casePairs h)
  simp only [Bool.or_eq_true, Bool.and_eq_true, Bool.not_eq_true', ← Bool.not_eq_true,
    testBit_bitsOf] at hpair
  exact hpair.imp_left fun hnone => ⟨expansion?_eq_none hnone.1, expansion?_eq_none hnone.2⟩

theorem weightsOf_lowercase {c : Char} (halphabetic : isAlphabetic c = true)
    (hnumeric : isNumeric c = false) (h : lowercase c ≠ c) (hne : c ≠ 'ẞ') :
    weightsOf c = weightsOf (lowercase c) := by
  have hpair := isCasePair_lowercase h
  -- Either neither of the two is expanded and the weight folds the case, or both are.
  rcases expansion?_cases h with ⟨hc, hl⟩ | hmem
  · have hweight : weight c = weight (lowercase c) := by
      rw [weight_of_letter halphabetic hnumeric,
        weight_of_letter hpair.isAlphabetic (hpair.isNumeric hnumeric), hpair.lowercase_lower]
    simp [weightsOf, baseElements, hc, hl, Element.weight?, hweight]
  · obtain ⟨p, hp, rfl⟩ := List.mem_map.mp (List.mem_of_ne_of_mem hne hmem)
    obtain ⟨hlower, hweights⟩ := weightsOf_expandedPairs p hp
    rw [hlower, hweights]

/-! ## Keys of texts -/

theorem elements_append_cons {c : Char} (h : isMark c = false) (before after : List Char) :
    elements (before ++ c :: after) =
      elements before ++ (baseElements c ++ after.flatMap elementsOf) := by
  have hc : elementsOf c = baseElements c := by simp [elementsOf, h]
  cases before with
  | nil => rfl
  | cons b before => simp [elements, hc]

/-- A character that is neither a mark nor decomposed splits the first level of a key. -/
theorem primary_sortKey_insert {c : Char} (hmark : isMark c = false) (hc : decompose c = [c])
    (x y : String) :
    (sortKey (x ++ String.singleton c ++ y)).primary =
      (elements (canonicalForm x.toList)).filterMap Element.weight? ++ (weightsOf c ++
        ((canonicalForm y.toList).flatMap elementsOf).filterMap Element.weight?) := by
  have hchars : (x ++ String.singleton c ++ y).toList = x.toList ++ c :: y.toList := by simp
  rw [sortKey, hchars, canonicalForm_append_cons hmark hc, elements_append_cons hmark,
    SortKey.ofElements, List.filterMap_append, List.filterMap_append, weightsOf]

theorem primary_sortKey_lowercase {c : Char} (halphabetic : isAlphabetic c = true)
    (hnumeric : isNumeric c = false) (hform : canonicalForm [c] = [c]) (hne : c ≠ 'ẞ')
    (x y : String) :
    (sortKey (x ++ String.singleton c ++ y)).primary =
      (sortKey (x ++ String.singleton (lowercase c) ++ y)).primary := by
  by_cases hlower : lowercase c = c
  · rw [hlower]
  · have hpair := isCasePair_lowercase hlower
    have hc := decompose_eq_of_canonicalForm hform
    rw [primary_sortKey_insert hpair.notMark hc,
      primary_sortKey_insert hpair.notMark_lower (hpair.decompose_lower hc),
      weightsOf_lowercase halphabetic hnumeric hlower hne]

/-! ## The order of texts -/

theorem Class.rank_inj {a b : Class} (h : a.rank = b.rank) : a = b := by
  revert h
  cases a <;> cases b <;> decide

instance : Std.LawfulEqOrd Weight where
  eq_of_compare {a b} h := by
    obtain ⟨hkind, hplace⟩ := Ordering.then_eq_eq.mp h
    rw [Std.LawfulEqOrd.compare_eq_iff_eq] at hkind hplace
    cases a
    cases b
    cases Class.rank_inj hkind
    cases hplace
    rfl

/-- Texts that differ on the first level are ordered by it. -/
theorem collate_of_primary_ne {a b : String} (h : (sortKey a).primary ≠ (sortKey b).primary) :
    collate a b = compare (sortKey a).primary (sortKey b).primary := by
  have hne : compare (sortKey a).primary (sortKey b).primary ≠ .eq :=
    mt Std.LawfulEqOrd.eq_of_compare h
  rw [collate, SortKey.cmp]
  cases hcompare : compare (sortKey a).primary (sortKey b).primary with
  | lt => rfl
  | eq => exact absurd hcompare hne
  | gt => rfl

/-- Any letter but the capital sharp s may be written in lower case without a change on the first
level, and hence without one in the order against a text that differs there. -/
theorem collate_ignores_case (x y : String) (c : Char) (halphabetic : isAlphabetic c = true)
    (hnumeric : isNumeric c = false) (hform : canonicalForm [c] = [c]) (hne : c ≠ 'ẞ') :
    (sortKey (x ++ String.singleton c ++ y)).primary =
      (sortKey (x ++ String.singleton (lowercase c) ++ y)).primary ∧
    ∀ w, (sortKey w).primary ≠ (sortKey (x ++ String.singleton c ++ y)).primary →
      collate (x ++ String.singleton c ++ y) w =
        collate (x ++ String.singleton (lowercase c) ++ y) w := by
  have hprimary := primary_sortKey_lowercase halphabetic hnumeric hform hne x y
  refine ⟨hprimary, fun w hw => ?_⟩
  rw [collate_of_primary_ne hw.symm, collate_of_primary_ne (hprimary ▸ hw.symm), hprimary]

/-- An o with a stroke and an accent, behind a letter with an accent. -/
theorem collate_ignores_case_stroke :
    collate "éØ\u0301l" "eöm" = collate "éø\u0301l" "eöm" := by
  have hlower : lowercase 'Ø' = 'ø' := by decide +kernel
  have hcase := (collate_ignores_case "é" "\u0301l" 'Ø' (by decide +kernel) (by decide +kernel)
    (by decide +kernel) (by decide)).2 "eöm" (by decide +kernel)
  rw [hlower] at hcase
  exact hcase

/-- The capital sharp s does not sort like the small one: a t stands between them. -/
theorem capital_sharp_s_sorts_apart :
    isAlphabetic 'ẞ' = true ∧ isNumeric 'ẞ' = false ∧ canonicalForm ['ẞ'] = ['ẞ'] ∧
      lowercase 'ẞ' = 'ß' ∧ (sortKey "ẞ").primary ≠ (sortKey "ß").primary ∧
      (sortKey "t").primary ≠ (sortKey "ẞ").primary ∧
      collate "ẞ" "t" = .gt ∧ collate "ß" "t" = .lt := by
  decide +kernel

end CellFormula.Collation
