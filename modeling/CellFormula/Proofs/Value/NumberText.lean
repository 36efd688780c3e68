import CellFormula.Proofs.Evaluation.Failure
import CellFormula.Proofs.Value.NumericText

/-! # Texts of numbers

The text of a finite number coerces to the number, and it is a token for the number if it has no
sign. Only the two zeros share a text, so that numbers are equal exactly if their texts are.
-/

namespace CellFormula

/-! ## The sign of a zero

Adding zero to a finite number takes the sign off a zero and does nothing else. The text and the
place of a number do not have that sign in the first place.
-/

theorem write_add_zero {x : Float} (h : x.isFinite = true) :
    cellNumber.write (x + 0) = cellNumber.write x := by
  rw [add_zero_eq_ite h]
  by_cases hzero : x = -0
  · rw [if_pos hzero, hzero]
    decide +kernel
  · rw [if_neg hzero]

namespace Binary64

theorem place_zero : place 0 = 0 := by
  rw [zero_eq, place_toFloat _ (Nat.zero_le _)]
  rfl

theorem place_add_zero {x : Float} (h : x.isFinite = true) : place (x + 0) = place x := by
  rw [add_zero_eq_ite h]
  by_cases hzero : x = -0
  · rw [if_pos hzero, hzero, place_zero, neg_zero_eq, place_toFloat _ (Nat.zero_le _)]
    rfl
  · rw [if_neg hzero]

end Binary64

/-- A plain number is given by its place. -/
theorem IsPlainNumber.eq_of_place_eq {x y : Float} (hx : IsPlainNumber x) (hy : IsPlainNumber y)
    (h : Binary64.place x = Binary64.place y) : x = y := by
  obtain ⟨negative, rank, rfl, hlt, hpos⟩ := hx.exists_toFloat
  obtain ⟨negative', rank', rfl, hlt', hpos'⟩ := hy.exists_toFloat
  rw [Binary64.place_toFloat _ (Nat.le_of_lt hlt),
    Binary64.place_toFloat _ (Nat.le_of_lt hlt')] at h
  -- A negative plain number is not zero, so that its place is below those of the others.
  cases negative with
  | false =>
      cases negative' with
      | false =>
          have hrank : rank = rank' := by simpa using h
          rw [hrank]
      | true =>
          have hpos' := hpos' rfl
          simp at h
          omega
  | true =>
      have hpos := hpos rfl
      cases negative' with
      | false =>
          simp at h
          omega
      | true =>
          have hrank : rank = rank' := by simpa using h
          rw [hrank]

theorem add_zero_eq_iff_place_eq {x y : Float} (hx : x.isFinite = true) (hy : y.isFinite = true) :
    x + 0 = y + 0 ↔ Binary64.place x = Binary64.place y := by
  rw [← Binary64.place_add_zero hx, ← Binary64.place_add_zero hy]
  constructor
  · intro h
    rw [h]
  · exact (isPlainNumber_add_zero hx).eq_of_place_eq (isPlainNumber_add_zero hy)

/-! ## Reading the text -/

/-- A negative number is written with a sign and read with it. -/
theorem NumberStyle.spellsText_write (style : NumberStyle) {negative : Bool} {rank : Nat}
    (h : rank < Binary64.infinity)
    (hsign : negative = true → style.signedZero = true ∨ 0 < rank) :
    Numeral.SpellsText (style.write (Binary64.toFloat negative rank)).toList
      (if negative then ['-'] else []) (Binary64.toFloat negative rank) := by
  obtain ⟨d, hspells, hvalue⟩ := style.exists_spells_shortest h
  have hblank : ([] : List Char).all Unicode.isWhiteSpace = true := rfl
  rw [toList_write h hsign]
  cases negative with
  | false => simpa using Numeral.SpellsText.text hblank .none hspells hvalue hblank
  | true =>
      have hnegated : d.toFloat? true = some (Binary64.toFloat true rank) := by
        simp only [Decimal.toFloat?_true, hvalue, Option.map_some,
          Binary64.neg_toFloat _ (Nat.le_of_lt h), Bool.not_false]
      simpa using Numeral.SpellsText.text hblank .minus hspells hnegated hblank

/-- Where a negative zero keeps its sign, every finite number reads back. -/
theorem NumberStyle.ofText?_write {style : NumberStyle} (hsigned : style.signedZero = true)
    {x : Float} (h : x.isFinite = true) : Numeral.ofText? (style.write x) = some x := by
  have hlt := Binary64.isFinite_iff.mp h
  rw [← Binary64.toFloat_rankOf (Nat.le_of_lt hlt)]
  exact Numeral.ofText?_eq_some_iff.mpr ⟨_, style.spellsText_write hlt fun _ => .inl hsigned⟩

theorem NumberStyle.eq_of_write_eq {style : NumberStyle} (hsigned : style.signedZero = true)
    {x y : Float} (hx : x.isFinite = true) (hy : y.isFinite = true)
    (h : style.write x = style.write y) : x = y := by
  have hread := ofText?_write hsigned hx
  rw [h, ofText?_write hsigned hy] at hread
  exact (Option.some.inj hread).symm

theorem spellsText_write {negative : Bool} {rank : Nat} (h : rank < Binary64.infinity)
    (hpos : negative = true → 0 < rank) :
    Numeral.SpellsText (cellNumber.write (Binary64.toFloat negative rank)).toList
      (if negative then ['-'] else []) (Binary64.toFloat negative rank) :=
  cellNumber.spellsText_write h fun hnegative => .inr (hpos hnegative)

section Plain

variable {x : Float} (h : IsPlainNumber x)
include h

theorem ofText?_write : Numeral.ofText? (cellNumber.write x) = some x := by
  obtain ⟨negative, rank, rfl, hlt, hpos⟩ := h.exists_toFloat
  exact Numeral.ofText?_eq_some_iff.mpr ⟨_, spellsText_write hlt hpos⟩

theorem isNumberFormula_write (hnonneg : ¬ x < 0) : IsNumberFormula (cellNumber.write x) x := by
  obtain ⟨negative, rank, rfl, hlt, hpos⟩ := h.exists_toFloat
  have hspells := spellsText_write hlt hpos
  rw [Binary64.toFloat_lt_zero_iff hlt hpos] at hnonneg
  rw [if_neg hnonneg] at hspells
  exact isNumberFormula_iff.mpr hspells

end Plain

/-- Different plain numbers have different texts, since each reads back. -/
theorem write_inj {x y : Float} (hx : IsPlainNumber x) (hy : IsPlainNumber y)
    (h : cellNumber.write x = cellNumber.write y) : x = y := by
  have hread := ofText?_write hx
  rw [h, ofText?_write hy] at hread
  exact (Option.some.inj hread).symm

section Finite

variable {x y : Float} (hx : x.isFinite = true) (hy : y.isFinite = true)
include hx

theorem ofText?_write_of_isFinite : Numeral.ofText? (cellNumber.write x) = some (x + 0) := by
  rw [← write_add_zero hx]
  exact ofText?_write (isPlainNumber_add_zero hx)

/-- The text of a number that is not below zero. -/
theorem isNumberFormula_write_of_isFinite (hnonneg : 0 < x ∨ (x == 0) = true) :
    IsNumberFormula (cellNumber.write x) (x + 0) := by
  have hplain := isPlainNumber_add_zero hx
  have hplace : 0 ≤ Binary64.place x := by
    have hnan := Binary64.isNaN_eq_false hx
    rw [Binary64.lt_iff_place_lt isPlainNumber_zero.isNaN_eq_false hnan,
      Binary64.beq_iff_place_eq hnan isPlainNumber_zero.isNaN_eq_false, Binary64.place_zero]
      at hnonneg
    omega
  rw [← write_add_zero hx]
  apply isNumberFormula_write hplain
  rw [Binary64.lt_iff_place_lt hplain.isNaN_eq_false isPlainNumber_zero.isNaN_eq_false,
    Binary64.place_add_zero hx, Binary64.place_zero]
  omega

include hy

theorem write_eq_write_iff :
    cellNumber.write x = cellNumber.write y ↔ Binary64.place x = Binary64.place y := by
  rw [← add_zero_eq_iff_place_eq hx hy, ← write_add_zero hx, ← write_add_zero hy]
  constructor
  · exact write_inj (isPlainNumber_add_zero hx) (isPlainNumber_add_zero hy)
  · intro h
    rw [h]

theorem compare_number_eq_iff :
    (Value.number x).compare (.number y) = .ok .eq ↔
      Binary64.place x = Binary64.place y := by
  have hcompare : (Value.number x).compare (.number y) = .ok (compareNumbers x y) := rfl
  rw [hcompare, compareNumbers_eq_compare_place (Binary64.isNaN_eq_false hx)
    (Binary64.isNaN_eq_false hy), Except.ok.injEq, Int.compare_eq_eq]

end Finite

/-! ## Joined texts as numbers -/

theorem concat_empty (x : Float) :
    (Value.number x).concat (.text "") = .text (cellNumber.write x) := by
  rw [← String.append_empty (s := cellNumber.write x)]
  exact Value.ofResult_both (fun s t => .text (s ++ t)) rfl rfl

theorem toNumber_text_write {x : Float} (h : x.isFinite = true) :
    (Value.text (cellNumber.write x)).toNumber = .ok (x + 0) := by
  rw [Value.toNumber, Value.firstScalar, Except.bind, Scalar.toNumber, ofText?_write_of_isFinite h]

/-- A text to which zero is added is a number again. -/
theorem add_text_write {x : Float} (h : x.isFinite = true) :
    Arithmetic.add.apply (.text (cellNumber.write x)) (.number 0) = .number (x + 0) := by
  have hplain := isPlainNumber_add_zero h
  have hsum : Arithmetic.add.apply (.text (cellNumber.write x)) (.number 0) =
      .ofNumber (x + 0 + 0) :=
    Value.ofResult_both Arithmetic.add.applyNumbers (toNumber_text_write h) rfl
  rw [hsum, hplain.add_zero, hplain.ofNumber_eq]

/-- The expression `(x & "") + 0`. -/
def Expr.throughText (x : Float) : Expr :=
  .binary (.arithmetic .add) (.group (.binary .concat (.literal (.number x)) (.literal (.text ""))))
    (.literal (.number 0))

theorem Expr.evaluate_throughText {x : Float} (h : x.isFinite = true) :
    (throughText x).evaluate = .number (x + 0) := by
  rw [throughText, evaluate_binary, evaluate_group, evaluate_binary]
  simp only [evaluate_literal, Operator.apply]
  rw [concat_empty, add_text_write h]

/-- The text of a finite number coerces to that number, without the sign of a zero, and is a single
token for it if the number is not below zero. Numbers are equal exactly if their texts are, and a
number that is joined to a text is the same number again as soon as it is used as one. -/
theorem numberText_readsBack :
    (∀ x : Float, x.isFinite = true →
      Numeral.ofText? (cellNumber.write x) = some (if x = -0 then 0 else x) ∧
      (0 < x ∨ (x == 0) = true →
        IsNumberFormula (cellNumber.write x) (if x = -0 then 0 else x)) ∧
      (Expr.throughText x).evaluate = .number (if x = -0 then 0 else x)) ∧
    ∀ x y : Float, x.isFinite = true → y.isFinite = true →
      ((Value.number x).compare (.number y) = .ok .eq ↔
        cellNumber.write x = cellNumber.write y) := by
  constructor
  · intro x hx
    rw [← add_zero_eq_ite hx]
    exact ⟨ofText?_write_of_isFinite hx, isNumberFormula_write_of_isFinite hx,
      Expr.evaluate_throughText hx⟩
  · intro x y hx hy
    rw [compare_number_eq_iff hx hy, write_eq_write_iff hx hy]

/-- The smallest positive number, the first one that is written with a power of ten, and the two
zeros. -/
theorem numberText_readsBack_edges :
    Numeral.ofText? "5e-324" = some 5e-324 ∧ IsNumberFormula "1e+21" 1e21 ∧
      (Expr.throughText (-0)).evaluate = .number 0 ∧
      (Value.number 0).compare (.number (-0)) = .ok .eq := by
  have hsmall := (numberText_readsBack.1 5e-324 (by decide +kernel)).1
  have hlarge := (numberText_readsBack.1 1e21 (by decide +kernel)).2.1 (.inl (by decide +kernel))
  have hzero := (numberText_readsBack.1 (-0) (by decide +kernel)).2.2
  have hzeros := numberText_readsBack.2 0 (-0) (by decide +kernel) (by decide +kernel)
  have hsmallText : cellNumber.write 5e-324 = "5e-324" := by decide +kernel
  have hlargeText : cellNumber.write 1e21 = "1e+21" := by decide +kernel
  rw [hsmallText, if_neg (by decide +kernel)] at hsmall
  rw [hlargeText, if_neg (by decide +kernel)] at hlarge
  rw [if_pos rfl] at hzero
  exact ⟨hsmall, hlarge, hzero, hzeros.mpr (by decide +kernel)⟩

end CellFormula
