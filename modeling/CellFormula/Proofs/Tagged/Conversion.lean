import CellFormula.Formula
import CellFormula.Proofs.Value.WellFormed

/-! # Tagging a value and forgetting the tags

A tagged value may carry any tags. Those that tagging gives are the ones with the right tag at every
level, and on them forgetting the tags loses nothing. So the result of a formula and its value say
the same.
-/

namespace CellFormula

namespace Tagged

/-! ## The right tags -/

/-- Every level carries the tag of what it holds. The rules name the tags themselves, and so say it
without the function that tagging takes them from. -/
inductive IsWellTagged : Tagged → Prop where
  | number (x : Float) : IsWellTagged (.scalar .number (.number x))
  | text (s : String) : IsWellTagged (.scalar .text (.text s))
  | boolean (b : Bool) : IsWellTagged (.scalar .boolean (.boolean b))
  | error (kind : ErrorKind) : IsWellTagged (.scalar .error (.error kind))
  | list {items : List Tagged} (each : ∀ t ∈ items, t.IsWellTagged) :
      IsWellTagged (.list .list items)

theorem isWellTagged_scalar (s : Scalar) : (scalar s.tag s).IsWellTagged := by
  cases s with
  | number x => exact .number x
  | text s => exact .text s
  | boolean b => exact .boolean b
  | error kind => exact .error kind

theorem isWellTagged_ofValue (v : Value) : (ofValue v).IsWellTagged := by
  induction v with
  | scalar s =>
      rw [ofValue]
      exact isWellTagged_scalar s
  | list items ih =>
      rw [ofValue, ofValues_eq_map]
      exact .list (List.forall_mem_map.mpr ih)

/-! ## There and back -/

theorem map_map_eq_self {α β : Type} {there : α → β} {back : β → α} {xs : List α}
    (h : ∀ x ∈ xs, back (there x) = x) : (xs.map there).map back = xs := by
  rw [List.map_map]
  calc
    xs.map (back ∘ there) = xs.map id := List.map_congr_left h
    _ = xs := List.map_id xs

theorem toValue_ofValue (v : Value) : (ofValue v).toValue = v := by
  induction v with
  | scalar s => rw [ofValue, toValue]
  | list items ih =>
      rw [ofValue, toValue, ofValues_eq_map, toValues_eq_map, map_map_eq_self ih]

theorem IsWellTagged.ofValue_toValue {t : Tagged} (h : t.IsWellTagged) : ofValue t.toValue = t := by
  induction h with
  | number x => rfl
  | text s => rfl
  | boolean b => rfl
  | error kind => rfl
  | list _ ih => rw [toValue, ofValue, toValues_eq_map, ofValues_eq_map, map_map_eq_self ih]

/-- The tags that are forgotten come back if they were right, and others never do. -/
theorem ofValue_toValue_eq_iff {t : Tagged} : ofValue t.toValue = t ↔ t.IsWellTagged := by
  refine ⟨fun h => ?_, IsWellTagged.ofValue_toValue⟩
  rw [← h]
  exact isWellTagged_ofValue t.toValue

-- A wrong tag inside a list is put right.
example : ofValue (list .list [scalar .text (.boolean true)]).toValue =
    list .list [scalar .boolean (.boolean true)] := rfl

end Tagged

/-! ## Results of formulas -/

namespace Formula

/-- The result of a formula is the one well tagged form of its value. -/
theorem result_eq_ok_iff {source : String} {t : Tagged} :
    result source = .ok t ↔ t.IsWellTagged ∧ calculate source = .ok t.toValue := by
  rw [result]
  cases calculate source with
  | error e => simp [Except.map]
  | ok v =>
      constructor
      · intro h
        cases h
        exact ⟨Tagged.isWellTagged_ofValue v, by rw [Tagged.toValue_ofValue]⟩
      · rintro ⟨htags, h⟩
        cases h
        exact congrArg Except.ok htags.ofValue_toValue

/-- The value of a formula is its result without the tags. -/
theorem calculate_eq_ok_iff {source : String} {v : Value} :
    calculate source = .ok v ↔ ∃ t, result source = .ok t ∧ t.toValue = v := by
  constructor
  · intro h
    refine ⟨.ofValue v, result_eq_ok_iff.mpr ?_, Tagged.toValue_ofValue v⟩
    rw [Tagged.toValue_ofValue]
    exact ⟨Tagged.isWellTagged_ofValue v, h⟩
  · rintro ⟨t, h, rfl⟩
    exact (result_eq_ok_iff.mp h).2

theorem result_eq_error_iff {source : String} {e : FormulaError} :
    result source = .error e ↔ calculate source = .error e := by
  rw [result]
  cases calculate source <;> simp [Except.map]

end Formula

/-! ## Main statement -/

/-- Tagging gives every level its right tag, and forgetting the tags undoes it. Tagging restores
what was forgotten exactly where all tags were right. A formula has a result if and only if it has
a value: the value is the result without its tags, the result is the value with the right ones, and
their errors are the same. -/
theorem tags_forgotten_and_restored :
    (∀ v : Value, (Tagged.ofValue v).toValue = v ∧ (Tagged.ofValue v).IsWellTagged) ∧
    (∀ t : Tagged, Tagged.ofValue t.toValue = t ↔ t.IsWellTagged) ∧
    ∀ source : String,
      (∀ v, Formula.calculate source = .ok v ↔
        ∃ t, Formula.result source = .ok t ∧ t.toValue = v) ∧
      (∀ t, Formula.result source = .ok t ↔
        t.IsWellTagged ∧ ∃ v, Formula.calculate source = .ok v ∧ t.toValue = v) ∧
      ∀ e, Formula.result source = .error e ↔ Formula.calculate source = .error e := by
  refine ⟨fun v => ⟨Tagged.toValue_ofValue v, Tagged.isWellTagged_ofValue v⟩,
    fun t => Tagged.ofValue_toValue_eq_iff, fun source => ?_⟩
  refine ⟨fun v => Formula.calculate_eq_ok_iff, fun t => ?_,
    fun e => Formula.result_eq_error_iff⟩
  rw [Formula.result_eq_ok_iff, exists_eq_right']

end CellFormula
