import CellFormula.Proofs.Collation.Concatenation

/-! # The second level, base character by base character

On the second level a zero stands for a base character, and the marks on it follow. No mark is zero
and none comes before the first base character, so that the level can be taken apart again. A zero
is less than every mark, and therefore comparing the level as it stands is the same as comparing the
marks of one base character after those of the other.
-/

namespace CellFormula.Collation

open Unicode

/-! ## Lists of marks behind zeros -/

/-- The sequence is made of the lists, each of them behind a zero and without one. -/
structure Spreads (flat : List Nat) (groups : List (List Nat)) : Prop where
  flat_eq : flat = groups.flatMap (0 :: ·)
  zero_notMem : ∀ marks ∈ groups, 0 ∉ marks

/-- The lists of marks on the second level of a key, one for each base character. -/
def SortKey.accents (key : SortKey) : List (List Nat) :=
  (key.secondary.splitOn 0).tail

namespace Spreads

variable {flat flat' : List Nat} {groups groups' : List (List Nat)}

theorem intercalate_eq (groups : List (List Nat)) :
    [0].intercalate ([] :: groups) = groups.flatMap (0 :: ·) := by
  induction groups with
  | nil => rfl
  | cons marks groups ih =>
      rw [List.flatMap_cons, ← ih, List.intercalate_cons_cons]
      cases groups with
      | nil => simp
      | cons next groups => simp [List.intercalate_cons_cons]

/-- Splitting at the zeros gives the lists back, behind the empty one before the first zero. -/
theorem splitOn_eq (h : Spreads flat groups) : flat.splitOn 0 = [] :: groups := by
  rw [h.flat_eq, ← intercalate_eq]
  refine List.splitOn_intercalate 0 ?_ (List.cons_ne_nil _ _)
  exact List.forall_mem_cons.mpr ⟨List.not_mem_nil, h.zero_notMem⟩

theorem count_eq (h : Spreads flat groups) : flat.count 0 = groups.length := by
  obtain ⟨rfl, hzero⟩ := h
  induction groups with
  | nil => rfl
  | cons marks groups ih =>
      rw [List.forall_mem_cons] at hzero
      rw [List.flatMap_cons, List.count_append, List.count_cons_self, ih hzero.2,
        List.count_eq_zero_of_not_mem hzero.1, List.length_cons]
      omega

theorem head?_eq (h : Spreads flat groups) : flat = [] ∨ flat.head? = some 0 := by
  obtain ⟨rfl, -⟩ := h
  cases groups with
  | nil => exact .inl rfl
  | cons marks groups => exact .inr rfl

/-- Before what is empty or starts with a zero, marks are compared first: a list that is the
beginning of the other meets a zero or the end there. -/
theorem compare_append {marks marks' : List Nat} (hmarks : 0 ∉ marks) (hmarks' : 0 ∉ marks')
    (hflat : flat = [] ∨ flat.head? = some 0) (hflat' : flat' = [] ∨ flat'.head? = some 0) :
    compare (marks ++ flat) (marks' ++ flat') =
      (compare marks marks').then (compare flat flat') := by
  have hless : ∀ {m : Nat} {more rest : List Nat}, m ≠ 0 → rest = [] ∨ rest.head? = some 0 →
      compare rest (m :: more) = .lt := by
    intro m more rest hm hrest
    cases rest with
    | nil => exact List.compare_nil_cons
    | cons n rest =>
        obtain rfl : n = 0 := by simpa using hrest
        rw [List.compare_cons_cons, Nat.compare_eq_lt.mpr (Nat.pos_of_ne_zero hm)]
        rfl
  induction marks generalizing marks' with
  | nil =>
      cases marks' with
      | nil => rfl
      | cons m marks' =>
          have hm : m ≠ 0 := fun hm => hmarks' (hm ▸ List.mem_cons_self)
          rw [List.nil_append, List.cons_append, hless hm hflat, List.compare_nil_cons]
          rfl
  | cons m marks ih =>
      have hm : m ≠ 0 := fun hm => hmarks (hm ▸ List.mem_cons_self)
      cases marks' with
      | nil =>
          rw [List.nil_append, List.cons_append, Std.OrientedOrd.eq_swap, hless hm hflat',
            List.compare_cons_nil]
          rfl
      | cons m' marks' =>
          rw [List.cons_append, List.cons_append, List.compare_cons_cons, List.compare_cons_cons,
            Ordering.then_assoc, ih (List.not_mem_of_not_mem_cons hmarks)
              (List.not_mem_of_not_mem_cons hmarks')]

theorem compare_eq (h : Spreads flat groups) (h' : Spreads flat' groups') :
    compare flat flat' = compare groups groups' := by
  induction groups generalizing groups' flat flat' with
  | nil =>
      obtain ⟨rfl, -⟩ := h
      obtain ⟨rfl, -⟩ := h'
      cases groups' with
      | nil => rfl
      | cons marks' groups' => rfl
  | cons marks groups ih =>
      obtain ⟨rfl, hzero⟩ := h
      obtain ⟨rfl, hzero'⟩ := h'
      cases groups' with
      | nil => rfl
      | cons marks' groups' =>
          rw [List.forall_mem_cons] at hzero hzero'
          have hrest : Spreads (groups.flatMap (0 :: ·)) groups := ⟨rfl, hzero.2⟩
          have hrest' : Spreads (groups'.flatMap (0 :: ·)) groups' := ⟨rfl, hzero'.2⟩
          rw [List.flatMap_cons, List.flatMap_cons, List.cons_append, List.cons_append,
            List.compare_cons_cons, Std.ReflOrd.compare_self, Ordering.eq_then,
            compare_append hzero.1 hzero'.1 hrest.head?_eq hrest'.head?_eq, ih hrest hrest',
            List.compare_cons_cons]

end Spreads

/-! ## Elements of texts -/

theorem toNat_ne_zero_of_isMark {c : Char} (h : isMark c = true) : c.toNat ≠ 0 := by
  intro hc
  have hzero : c = '\x00' := Char.toNat_inj.mp hc
  rw [hzero] at h
  exact absurd h (by decide +kernel)

theorem toNat_ne_zero_of_mem_baseElements {c m : Char} (h : .mark m ∈ baseElements c) :
    m.toNat ≠ 0 := by
  unfold baseElements at h
  split at h
  · rename_i bases stroke hexpansion
    unfold expansion? at hexpansion
    split at hexpansion <;> cases hexpansion <;> simp at h <;> subst h <;> decide
  · simp at h

theorem toNat_ne_zero_of_mem_elements {cs : List Char} {m : Char} (h : .mark m ∈ elements cs) :
    m.toNat ≠ 0 := by
  cases cs with
  | nil => cases h
  | cons c cs =>
      rw [elements, List.mem_append, List.mem_flatMap] at h
      rcases h with hfirst | ⟨d, -, hd⟩
      · exact toNat_ne_zero_of_mem_baseElements hfirst
      · unfold elementsOf at hd
        split at hd
        · rename_i hmark
          cases List.mem_singleton.mp hd
          exact toNat_ne_zero_of_isMark hmark
        · exact toNat_ne_zero_of_mem_baseElements hd

/-- Elements give some marks that no base character precedes, and then a list of marks for each base
character. -/
theorem exists_groups {es : List Element} (h : ∀ m, .mark m ∈ es → m.toNat ≠ 0) :
    ∃ (lead : List Nat) (groups : List (List Nat)),
      es.map Element.accent = lead ++ groups.flatMap (0 :: ·) ∧ 0 ∉ lead ∧
      (∀ marks ∈ groups, 0 ∉ marks) ∧ (es.filterMap Element.weight?).length = groups.length ∧
      (es.filterMap Element.case?).length = groups.length := by
  induction es with
  | nil => exact ⟨[], [], rfl, List.not_mem_nil, List.forall_mem_nil _, rfl, rfl⟩
  | cons e es ih =>
      obtain ⟨lead, groups, hflat, hlead, hgroups, hweights, hcases⟩ :=
        ih fun m hm => h m (List.mem_cons_of_mem _ hm)
      cases e with
      | base c =>
          refine ⟨[], lead :: groups, ?_, List.not_mem_nil,
            List.forall_mem_cons.mpr ⟨hlead, hgroups⟩, ?_, ?_⟩
          · rw [List.map_cons, hflat, List.flatMap_cons]
            rfl
          · simp [Element.weight?, hweights]
          · simp [Element.case?, hcases]
      | mark m =>
          have hm : 0 ≠ m.toNat := (h m List.mem_cons_self).symm
          refine ⟨m.toNat :: lead, groups, ?_, ?_, hgroups, ?_, ?_⟩
          · rw [List.map_cons, hflat]
            rfl
          · exact List.not_mem_cons_of_ne_of_not_mem hm hlead
          · exact hweights
          · exact hcases

/-! ## Keys of texts -/

theorem exists_spreads (s : String) :
    ∃ groups, Spreads (sortKey s).secondary groups ∧
      (sortKey s).primary.length = groups.length ∧ (sortKey s).tertiary.length = groups.length := by
  have hmarks : ∀ m, .mark m ∈ elements (canonicalForm s.toList) → m.toNat ≠ 0 :=
    fun _ => toNat_ne_zero_of_mem_elements
  obtain ⟨lead, groups, hflat, hlead, hgroups, hprimary, htertiary⟩ := exists_groups hmarks
  refine ⟨groups, ⟨?_, hgroups⟩, hprimary, htertiary⟩
  -- The first element is a base character, so nothing comes before the first zero.
  have hnil : lead = [] := by
    cases hform : canonicalForm s.toList with
    | nil =>
        rw [hform] at hflat
        exact (List.append_eq_nil_iff.mp hflat.symm).1
    | cons c cs =>
        obtain ⟨b, es, hbase⟩ := exists_baseElements c
        rw [hform, elements, hbase] at hflat
        cases lead with
        | nil => rfl
        | cons m lead =>
            have hm : 0 = m := (List.cons.inj hflat).1
            exact absurd (hm ▸ List.mem_cons_self) hlead
  rw [hnil] at hflat
  exact hflat

theorem spreads_accents (s : String) : Spreads (sortKey s).secondary (sortKey s).accents := by
  obtain ⟨groups, hspreads, -⟩ := exists_spreads s
  rw [SortKey.accents, hspreads.splitOn_eq]
  exact hspreads

theorem spreads_iff {s : String} {groups : List (List Nat)} :
    Spreads (sortKey s).secondary groups ↔ groups = (sortKey s).accents := by
  constructor
  · intro h
    rw [SortKey.accents, h.splitOn_eq]
    rfl
  · rintro rfl
    exact spreads_accents s

theorem length_primary (s : String) :
    (sortKey s).primary.length = (sortKey s).accents.length ∧
      (sortKey s).tertiary.length = (sortKey s).accents.length := by
  obtain ⟨groups, hspreads, hlength⟩ := exists_spreads s
  rw [spreads_iff.mp hspreads] at hlength
  exact hlength

theorem compare_secondary (a b : String) :
    compare (sortKey a).secondary (sortKey b).secondary =
      compare (sortKey a).accents (sortKey b).accents :=
  (spreads_accents a).compare_eq (spreads_accents b)

/-- Of two texts that agree on the first level, the first base characters with different marks decide
the order. -/
theorem collate_of_accents_ne {a b : String} (hprimary : (sortKey a).primary = (sortKey b).primary)
    {common rest rest' : List (List Nat)} {marks marks' : List Nat}
    (ha : (sortKey a).accents = common ++ marks :: rest)
    (hb : (sortKey b).accents = common ++ marks' :: rest') (hne : marks ≠ marks') :
    collate a b = compare marks marks' := by
  have hmarks : compare marks marks' ≠ .eq := mt Std.LawfulEqOrd.eq_of_compare hne
  rw [collate, SortKey.cmp, hprimary, Std.ReflOrd.compare_self, Ordering.eq_then,
    compare_secondary, ha, hb, compare_append_left, List.compare_cons_cons]
  cases hcompare : compare marks marks' with
  | lt => rfl
  | eq => exact absurd hcompare hmarks
  | gt => rfl

/-- The second level of a key has one zero for each base character and starts with one. So it is made
of one list of marks for each base character, in one way only. Texts that agree on the first level
are compared on the second by these lists, one base character after the other, and the first two
lists that differ decide; a list comes before its continuations. -/
theorem secondary_compares_accents :
    (∀ s, (sortKey s).secondary.count 0 = (sortKey s).primary.length ∧
      (sortKey s).secondary.count 0 = (sortKey s).tertiary.length ∧
      ((sortKey s).secondary = [] ∨ (sortKey s).secondary.head? = some 0) ∧
      (sortKey s).accents.length = (sortKey s).primary.length ∧
      ∀ groups, Spreads (sortKey s).secondary groups ↔ groups = (sortKey s).accents) ∧
    ∀ a b, (sortKey a).primary = (sortKey b).primary →
      compare (sortKey a).secondary (sortKey b).secondary =
        compare (sortKey a).accents (sortKey b).accents ∧
      ∀ common marks marks' rest rest', (sortKey a).accents = common ++ marks :: rest →
        (sortKey b).accents = common ++ marks' :: rest' → marks ≠ marks' →
        collate a b = compare marks marks' := by
  constructor
  · intro s
    obtain ⟨hprimary, htertiary⟩ := length_primary s
    have hcount := (spreads_accents s).count_eq
    refine ⟨?_, ?_, (spreads_accents s).head?_eq, hprimary.symm, fun groups => spreads_iff⟩
    · rw [hcount, hprimary]
    · rw [hcount, htertiary]
  · intro a b hprimary
    refine ⟨compare_secondary a b, ?_⟩
    intro common marks marks' rest rest' ha hb hne
    exact collate_of_accents_ne hprimary ha hb hne

/-- A stroke on an expanded letter, and a leading mark that counts as a base character: the first
accent difference is on the third base character, whose marks come before one mark more. -/
theorem secondary_compares_accents_stroke :
    (sortKey "\u0301æØ").accents = [[], [], [], [0x338]] ∧
      (sortKey "\u0301ae\u0323O").accents = [[], [], [0x323], []] ∧
      collate "\u0301æØ" "\u0301ae\u0323O" = .lt := by
  have ha : (sortKey "\u0301æØ").accents = [[], [], [], [0x338]] := by decide +kernel
  have hb : (sortKey "\u0301ae\u0323O").accents = [[], [], [0x323], []] := by decide +kernel
  have hprimary : (sortKey "\u0301æØ").primary = (sortKey "\u0301ae\u0323O").primary := by
    decide +kernel
  obtain ⟨-, hdecides⟩ := secondary_compares_accents.2 _ _ hprimary
  exact ⟨ha, hb, hdecides [[], []] [] [0x323] [[0x338]] [[]] ha hb (by decide)⟩

end CellFormula.Collation
