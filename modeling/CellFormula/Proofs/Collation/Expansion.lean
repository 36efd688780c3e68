import CellFormula.Proofs.Collation.Concatenation

/-! # Letters that sort like other letters

A letter with an expansion has the sort key of its expansion written out, whatever surrounds it. The
stroke of the letter enters the key behind its base, and a stroke that is written out stays there in
canonical form, since no mark that follows it has a lower class.
-/

namespace CellFormula.Collation

open Unicode

/-! ## The table of expansions -/

/-- The text that a letter with an expansion sorts like. -/
def expansionText? (c : Char) : Option String :=
  (expansion? c).map fun (bases, stroke) => String.ofList (bases ++ stroke.toList)

/-- The letters with an expansion, each with its expansion written out. -/
def expansions : List (Char × String) :=
  [('ß', "ss"), ('æ', "ae"), ('Æ', "AE"), ('œ', "oe"), ('Œ', "OE"),
    ('ø', "o\u0338"), ('Ø', "O\u0338"), ('ł', "l\u0335"), ('Ł', "L\u0335"),
    ('đ', "d\u0335"), ('Đ', "D\u0335"), ('ħ', "h\u0335"), ('Ħ', "H\u0335")]

theorem expansionText?_of_mem : ∀ p ∈ expansions, expansionText? p.1 = some p.2 := by
  decide +kernel

theorem expansions_contains_expanded :
    (expanded.all fun c => (expansions.map Prod.fst).contains c) = true := by
  decide +kernel

theorem expansionText?_eq_some_iff {c : Char} {text : String} :
    expansionText? c = some text ↔ (c, text) ∈ expansions := by
  constructor
  · intro h
    have hc : c ∈ expanded := by
      apply Decidable.byContradiction
      intro hc
      rw [expansionText?, expansion?_eq_none hc] at h
      cases h
    have hfirst := List.all_eq_true.mp expansions_contains_expanded c hc
    obtain ⟨p, hp, rfl⟩ := List.mem_map.mp (List.contains_iff_mem.mp hfirst)
    rw [expansionText?_of_mem p hp] at h
    cases h
    exact hp
  · exact expansionText?_of_mem (c, text)

/-! ## Texts that stay as they are -/

/-- Characters that canonical form neither decomposes nor moves. The first one is no mark, so that
none of the marks before it is moved past it. -/
structure IsSteady (first : Char) (rest : List Char) : Prop where
  notMark : isMark first = false
  decompose_eq : ∀ c ∈ first :: rest, decompose c = [c]
  class_le : ∀ c ∈ rest, combiningClass c ≤ 1

theorem canonicalForm_append_of_class_le {cs : List Char} (hdecompose : ∀ c ∈ cs, decompose c = [c])
    (hclass : ∀ c ∈ cs, combiningClass c ≤ 1) (after : List Char) :
    canonicalForm (cs ++ after) = cs ++ canonicalForm after := by
  induction cs with
  | nil => rfl
  | cons c cs ih =>
      rw [List.forall_mem_cons] at hdecompose hclass
      rw [List.cons_append, canonicalForm_cons hclass.1 hdecompose.1, ih hdecompose.2 hclass.2,
        List.cons_append]

/-- Steady characters keep their elements between any two texts. -/
theorem IsSteady.elements_canonicalForm {first : Char} {rest : List Char} (h : IsSteady first rest)
    (before after : List Char) :
    elements (canonicalForm (before ++ (first :: rest) ++ after)) =
      elements (canonicalForm before) ++ (elements (first :: rest) ++
        (canonicalForm after).flatMap elementsOf) := by
  obtain ⟨hfirst, hrest⟩ := List.forall_mem_cons.mp h.decompose_eq
  rw [List.append_assoc, List.cons_append, canonicalForm_append_cons h.notMark hfirst,
    canonicalForm_append_of_class_le hrest h.class_le, elements_append_cons h.notMark, elements,
    List.flatMap_append, List.append_assoc]

/-! ## Letters and their expansions -/

/-- What the tables of characters say about a letter and its expansion. -/
structure IsExpansion (c : Char) (first : Char) (rest : List Char) : Prop where
  steady : IsSteady c []
  steady_written : IsSteady first rest
  elements_eq : elements [c] = elements (first :: rest)
  lt : first.toNat < c.toNat

/-- One look at all entries of the table. -/
theorem expansions_checked :
    (expansions.all fun p => !isMark p.1 && decompose p.1 == [p.1] &&
      (p.2.toList.head?.any fun first => !isMark first && Nat.blt first.toNat p.1.toNat) &&
      (p.2.toList.all fun c => decompose c == [c] && Nat.ble (combiningClass c) 1) &&
      elements [p.1] == elements p.2.toList) = true := by
  decide +kernel

theorem exists_isExpansion {c : Char} {text : String} (h : (c, text) ∈ expansions) :
    ∃ first rest, text.toList = first :: rest ∧ IsExpansion c first rest := by
  have hchecked := List.all_eq_true.mp expansions_checked _ h
  simp only [Bool.and_eq_true, Bool.not_eq_true', beq_iff_eq, Option.any_eq_true, Nat.blt_eq,
    List.all_eq_true, Nat.ble_eq] at hchecked
  obtain ⟨⟨⟨⟨hmark, hc⟩, first, hfirst, hmark', hlt⟩, hwritten⟩, helements⟩ := hchecked
  obtain ⟨rest, htext⟩ := List.head?_eq_some_iff.mp hfirst
  rw [htext] at hwritten helements
  refine ⟨first, rest, htext, ⟨hmark, ?_, nofun⟩, ⟨hmark', ?_, ?_⟩, helements, hlt⟩
  · exact List.forall_mem_singleton.mpr hc
  · exact fun d hd => (hwritten d hd).1
  · exact fun d hd => (hwritten d (List.mem_cons_of_mem _ hd)).2

/-! ## Keys and order of texts -/

theorem sortKey_expansion {c : Char} {text : String} (h : (c, text) ∈ expansions) (x y : String) :
    sortKey (x ++ String.singleton c ++ y) = sortKey (x ++ text ++ y) := by
  obtain ⟨first, rest, htext, hexpansion⟩ := exists_isExpansion h
  have hletter : (x ++ String.singleton c ++ y).toList = x.toList ++ [c] ++ y.toList := by simp
  have hwritten : (x ++ text ++ y).toList = x.toList ++ (first :: rest) ++ y.toList := by
    simp [htext]
  rw [sortKey, sortKey, hletter, hwritten, hexpansion.steady.elements_canonicalForm,
    hexpansion.steady_written.elements_canonicalForm, hexpansion.elements_eq]

theorem SortKey.eq_of_cmp_eq {a b : SortKey} (h : a.cmp b = .eq) : a = b := by
  obtain ⟨hprimary, hrest⟩ := Ordering.then_eq_eq.mp h
  obtain ⟨hsecondary, htertiary⟩ := Ordering.then_eq_eq.mp hrest
  rw [Std.LawfulEqOrd.compare_eq_iff_eq] at hprimary hsecondary htertiary
  cases a
  cases b
  congr

/-- Texts with different keys are ordered by them. -/
theorem collate_of_sortKey_ne {a b : String} (h : sortKey a ≠ sortKey b) :
    collate a b = (sortKey a).cmp (sortKey b) := by
  rw [collate]
  cases hcmp : (sortKey a).cmp (sortKey b) with
  | lt => rfl
  | eq => exact absurd (SortKey.eq_of_cmp_eq hcmp) h
  | gt => rfl

/-- Texts with the same key are ordered by their code points. -/
theorem collate_of_sortKey_eq {a b : String} (h : sortKey a = sortKey b) :
    collate a b = compare (a.toList.map Char.toNat) (b.toList.map Char.toNat) := by
  have hself : (sortKey b).cmp (sortKey b) = .eq := Std.ReflCmp.compare_self
  rw [collate, h, hself, Ordering.eq_then]

theorem compare_codes_expansion {c : Char} {text : String} (h : (c, text) ∈ expansions)
    (x y : String) :
    compare ((x ++ String.singleton c ++ y).toList.map Char.toNat)
      ((x ++ text ++ y).toList.map Char.toNat) = .gt := by
  obtain ⟨first, rest, htext, hexpansion⟩ := exists_isExpansion h
  have hfirst : compare c.toNat first.toNat = .gt := Nat.compare_eq_gt.mpr hexpansion.lt
  simp [htext, compare_append_left, List.compare_cons_cons, hfirst]

/-- The letters with an expansion are those of the list. Between any two texts such a letter has the
key of its expansion written out, so that the two are ordered alike against every text with another
key. The code points alone tell them apart, and by these the letter comes second. -/
theorem collate_expansion :
    (∀ c text, expansionText? c = some text ↔ (c, text) ∈ expansions) ∧
    ∀ c text, (c, text) ∈ expansions → ∀ x y : String,
      sortKey (x ++ String.singleton c ++ y) = sortKey (x ++ text ++ y) ∧
      (∀ w, sortKey w ≠ sortKey (x ++ String.singleton c ++ y) →
        collate (x ++ String.singleton c ++ y) w = collate (x ++ text ++ y) w ∧
        collate w (x ++ String.singleton c ++ y) = collate w (x ++ text ++ y)) ∧
      collate (x ++ String.singleton c ++ y) (x ++ text ++ y) =
        compare ((x ++ String.singleton c ++ y).toList.map Char.toNat)
          ((x ++ text ++ y).toList.map Char.toNat) ∧
      collate (x ++ String.singleton c ++ y) (x ++ text ++ y) = .gt := by
  refine ⟨fun c text => expansionText?_eq_some_iff, fun c text h x y => ?_⟩
  have hkey := sortKey_expansion h x y
  have hcodes := collate_of_sortKey_eq hkey
  refine ⟨hkey, fun w hw => ⟨?_, ?_⟩, hcodes, ?_⟩
  · rw [collate_of_sortKey_ne hw.symm, collate_of_sortKey_ne (hkey ▸ hw.symm), hkey]
  · rw [collate_of_sortKey_ne hw, collate_of_sortKey_ne (hkey ▸ hw), hkey]
  · rw [hcodes, compare_codes_expansion h]

/-- Behind an accent, a stroke keeps its place before the two marks that follow it, which themselves
change places. -/
theorem collate_expansion_marks :
    (sortKey ("e\u0301" ++ String.singleton 'ø' ++ "\u0301\u0323")).secondary =
        [0, 0x301, 0, 0x338, 0x323, 0x301] ∧
      sortKey ("e\u0301" ++ String.singleton 'ø' ++ "\u0301\u0323") =
        sortKey ("e\u0301" ++ "o\u0338" ++ "\u0301\u0323") ∧
      collate ("e\u0301" ++ String.singleton 'ø' ++ "\u0301\u0323") "e\u0301p" =
        collate ("e\u0301" ++ "o\u0338" ++ "\u0301\u0323") "e\u0301p" := by
  obtain ⟨hkey, horder, -⟩ :=
    collate_expansion.2 'ø' "o\u0338" (by decide) "e\u0301" "\u0301\u0323"
  exact ⟨by decide +kernel, hkey, (horder "e\u0301p" (by decide +kernel)).1⟩

end CellFormula.Collation
