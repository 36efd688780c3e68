import CellFormula.Proofs.Number.Order

/-! # Comparison is a total preorder

Scalars are ordered by their types first, numbers and booleans by their places and texts by their
collation. Each of these is transitive, hence so is the order made of them.
-/

namespace CellFormula

/-- A comparison seen through a function is as transitive as it was. -/
theorem transCmp_comap {α β : Type} {cmp : β → β → Ordering} [Std.TransCmp cmp] (f : α → β) :
    Std.TransCmp fun a b => cmp (f a) (f b) where
  eq_swap {a b} := @Std.OrientedCmp.eq_swap β cmp _ (f a) (f b)
  isLE_trans {a b c} := @Std.TransCmp.isLE_trans β cmp _ (f a) (f b) (f c)

/-! ## Texts -/

namespace Collation

instance : Std.TransOrd Weight :=
  inferInstanceAs (Std.TransCmp
    (compareLex (compareOn fun w : Weight => w.kind.rank) (compareOn Weight.place)))

instance : Std.TransCmp SortKey.cmp :=
  inferInstanceAs (Std.TransCmp (compareLex (compareOn SortKey.primary)
    (compareLex (compareOn SortKey.secondary) (compareOn SortKey.tertiary))))

instance : Std.TransCmp collate :=
  have : Std.TransCmp fun s t => (sortKey s).cmp (sortKey t) := transCmp_comap sortKey
  inferInstanceAs (Std.TransCmp (compareLex (fun s t => (sortKey s).cmp (sortKey t))
    (compareOn fun s : String => s.toList.map Char.toNat)))

theorem collate_self (s : String) : collate s s = .eq :=
  Std.ReflCmp.compare_self

theorem collate_eq_eq_iff {s t : String} : collate s t = .eq ↔ s = t := by
  constructor
  · intro h
    have hpoints := (Ordering.then_eq_eq.mp h).2
    rw [Std.LawfulEqOrd.compare_eq_iff_eq] at hpoints
    exact String.toList_inj.mp ((List.map_inj_right fun _ _ => Char.toNat_inj.mp).mp hpoints)
  · rintro rfl
    exact collate_self s

end Collation

/-! ## Scalars -/

namespace Scalar

/-- Numbers come first, then texts, then booleans. -/
def kindRank : Scalar → Nat
  | number _ => 0
  | text _ => 1
  | boolean _ => 2
  | error _ => 3

/-- The place among the scalars of one type, by which texts are not told apart. -/
def place : Scalar → Int
  | number x => Binary64.place x
  | boolean b => if b then 1 else 0
  | _ => 0

def letters : Scalar → String
  | text s => s
  | _ => ""

/-- The order of scalars as one lexicographic comparison. -/
def order : Scalar → Scalar → Ordering :=
  compareLex (compareOn kindRank)
    (compareLex (compareOn place) fun s t => Collation.collate s.letters t.letters)

instance : Std.TransCmp order :=
  have : Std.TransCmp fun s t : Scalar => Collation.collate s.letters t.letters :=
    transCmp_comap letters
  inferInstanceAs (Std.TransCmp (compareLex _ (compareLex _ _)))

theorem order_number (x y : Float) :
    (number x).order (number y) = Ord.compare (Binary64.place x) (Binary64.place y) := by
  simp [order, compareLex, compareOn, kindRank, place, letters, Collation.collate_self]

theorem order_text (s t : String) : (text s).order (text t) = Collation.collate s t := by
  simp [order, compareLex, compareOn, kindRank, place, letters]

theorem order_boolean (a b : Bool) : (boolean a).order (boolean b) = compareBooleans a b := by
  cases a <;> cases b <;>
    simp [order, compareLex, compareOn, kindRank, place, letters, Collation.collate_self,
      compareBooleans] <;>
    rfl

theorem order_ne_eq {s t : Scalar} (h : s.kindRank ≠ t.kindRank) : s.order t ≠ .eq := by
  intro heq
  have hrank := (Ordering.then_eq_eq.mp heq).1
  exact h (Nat.compare_eq_eq.mp hrank)

/-- What has a place in the order: any scalar but an error and a NaN. -/
def IsComparable : Scalar → Prop
  | number x => x.isNaN = false
  | text _ => True
  | boolean _ => True
  | error _ => False

/-- Of one type and equal: numbers by value, texts and booleans as such. -/
def IsEqual : Scalar → Scalar → Prop
  | number x, number y => (x == y) = true
  | text s, text t => s = t
  | boolean a, boolean b => a = b
  | _, _ => False

section Comparable

variable {s t : Scalar} (hs : s.IsComparable) (ht : t.IsComparable)
include hs ht

theorem compare_eq_ok_order : s.compare t = .ok (s.order t) := by
  cases s with
  | error kind => exact hs.elim
  | number x =>
      cases t with
      | number y => rw [order_number, ← compareNumbers_eq_compare_place hs ht, compare]
      | error kind => exact ht.elim
      | _ => rfl
  | text s =>
      cases t with
      | text t => rw [order_text, compare]
      | error kind => exact ht.elim
      | _ => rfl
  | boolean a =>
      cases t with
      | boolean b => rw [order_boolean, compare]
      | error kind => exact ht.elim
      | _ => rfl

theorem order_eq_eq_iff : s.order t = .eq ↔ s.IsEqual t := by
  cases s with
  | error kind => exact hs.elim
  | number x =>
      cases t with
      | number y =>
          rw [order_number, Int.compare_eq_eq]
          exact (Binary64.beq_iff_place_eq hs ht).symm
      | _ => exact iff_of_false (order_ne_eq (by simp [kindRank])) id
  | text s =>
      cases t with
      | text t => rw [order_text, Collation.collate_eq_eq_iff, IsEqual]
      | _ => exact iff_of_false (order_ne_eq (by simp [kindRank])) id
  | boolean a =>
      cases t with
      | boolean b =>
          rw [order_boolean, IsEqual]
          cases a <;> cases b <;> decide
      | _ => exact iff_of_false (order_ne_eq (by simp [kindRank])) id

end Comparable

end Scalar

/-! ## Values -/

namespace Value

/-- The value stands for a scalar that has a place in the order. -/
def IsComparable (v : Value) : Prop :=
  ∃ s, v.firstScalar = .ok s ∧ s.IsComparable

/-- The values stand for equal scalars of one type. -/
def StandsForEqual (a b : Value) : Prop :=
  ∃ s t, a.firstScalar = .ok s ∧ b.firstScalar = .ok t ∧ s.IsEqual t

theorem compare_of_firstScalar {a b : Value} {s t : Scalar} (ha : a.firstScalar = .ok s)
    (hb : b.firstScalar = .ok t) (hs : s.IsComparable) (ht : t.IsComparable) :
    a.compare b = .ok (s.order t) := by
  rw [compare, ha, hb]
  exact Scalar.compare_eq_ok_order hs ht

theorem standsForEqual_iff {a b : Value} {s t : Scalar} (ha : a.firstScalar = .ok s)
    (hb : b.firstScalar = .ok t) : a.StandsForEqual b ↔ s.IsEqual t := by
  simp [StandsForEqual, ha, hb]

end Value

theorem Comparison.apply_of_compare {a b : Value} {order : Ordering}
    (h : a.compare b = .ok order) (op : Comparison) : op.apply a b = .boolean (op.holds order) := by
  rw [apply, h]
  rfl

/-- Exactly one of `<`, `=` and `>` holds, and the other three comparisons are their opposites. -/
theorem Comparison.holds_trichotomy (order : Ordering) :
    [less.holds order, equal.holds order, greater.holds order].count true = 1 ∧
      lessEqual.holds order = !greater.holds order ∧
      greaterEqual.holds order = !less.holds order ∧
      notEqual.holds order = !equal.holds order := by
  cases order <;> decide

namespace Value

/-- Values that stand for numbers, texts or booleans can be compared. The comparison is reflexive,
reversed with its operands and transitive, and it tells apart exactly what is not equal. The six
operators answer from it. -/
theorem compare_total_preorder (a b c : Value) (ha : a.IsComparable) (hb : b.IsComparable)
    (hc : c.IsComparable) :
    ∃ ab bc ac : Ordering,
      a.compare b = .ok ab ∧ b.compare c = .ok bc ∧ a.compare c = .ok ac ∧
      a.compare a = .ok .eq ∧ b.compare a = .ok ab.swap ∧
      (ab ≠ .gt → bc ≠ .gt → ac ≠ .gt ∧ (ab = .lt ∨ bc = .lt → ac = .lt)) ∧
      (ab = .eq ↔ a.StandsForEqual b) ∧
      ∃ less equal greater : Bool,
        Comparison.less.apply a b = .boolean less ∧
        Comparison.equal.apply a b = .boolean equal ∧
        Comparison.greater.apply a b = .boolean greater ∧
        [less, equal, greater].count true = 1 ∧
        Comparison.lessEqual.apply a b = .boolean (!greater) ∧
        Comparison.greaterEqual.apply a b = .boolean (!less) ∧
        Comparison.notEqual.apply a b = .boolean (!equal) := by
  obtain ⟨s, has, hs⟩ := ha
  obtain ⟨t, hbt, ht⟩ := hb
  obtain ⟨u, hcu, hu⟩ := hc
  have hab := compare_of_firstScalar has hbt hs ht
  have hba : b.compare a = .ok (s.order t).swap := by
    rw [compare_of_firstScalar hbt has ht hs, @Std.OrientedCmp.eq_swap _ Scalar.order]
  have haa : a.compare a = .ok .eq := by
    rw [compare_of_firstScalar has has hs hs, @Std.ReflCmp.compare_self _ Scalar.order]
  refine ⟨_, _, _, hab, compare_of_firstScalar hbt hcu ht hu, compare_of_firstScalar has hcu hs hu,
    haa, hba, ?_, ?_, ?_⟩
  · simp only [← Ordering.isLE_iff_ne_gt]
    intro hst htu
    refine ⟨Std.TransCmp.isLE_trans hst htu, ?_⟩
    rintro (hlt | hlt)
    · exact Std.TransCmp.lt_of_lt_of_isLE hlt htu
    · exact Std.TransCmp.lt_of_isLE_of_lt hst hlt
  · rw [standsForEqual_iff has hbt, Scalar.order_eq_eq_iff hs ht]
  · obtain ⟨hone, hle, hge, hne⟩ := Comparison.holds_trichotomy (s.order t)
    refine ⟨_, _, _, Comparison.apply_of_compare hab _, Comparison.apply_of_compare hab _,
      Comparison.apply_of_compare hab _, hone, ?_, ?_, ?_⟩
    · rw [Comparison.apply_of_compare hab, hle]
    · rw [Comparison.apply_of_compare hab, hge]
    · rw [Comparison.apply_of_compare hab, hne]

/-- A negative zero in nested lists comes before the text `1`, and this before a boolean. -/
theorem compare_total_preorder_mixed :
    let a := list [list [number (-0)], error .na]
    let b := text "1"
    let c := list [boolean false]
    a.compare b = .ok .lt ∧ b.compare c = .ok .lt ∧ a.compare c = .ok .lt := by
  intro a b c
  obtain ⟨ab, bc, ac, hab, hbc, hac, -, -, htrans, -⟩ := compare_total_preorder a b c
    ⟨.number (-0), rfl, by simp only [Scalar.IsComparable]; decide⟩ ⟨_, rfl, trivial⟩
    ⟨_, rfl, trivial⟩
  have hab' : a.compare b = .ok .lt := rfl
  have hbc' : b.compare c = .ok .lt := rfl
  obtain rfl : ab = .lt := Except.ok.inj (hab.symm.trans hab')
  obtain rfl : bc = .lt := Except.ok.inj (hbc.symm.trans hbc')
  refine ⟨hab, hbc, ?_⟩
  rw [hac, (htrans nofun nofun).2 (.inl rfl)]

end Value

end CellFormula
