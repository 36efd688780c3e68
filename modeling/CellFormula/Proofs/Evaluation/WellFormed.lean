import CellFormula.Formula
import CellFormula.Proofs.Evaluation.Calls
import CellFormula.Proofs.Lexer.Composition
import CellFormula.Proofs.Parser.Soundness

/-! # Formulas evaluate to well-formed values

Numbers enter an evaluation as literals or leave an operator, and both make them plain. So whatever
is reduced to a scalar has one, whatever is written is finite, and no NaN is compared.
-/

namespace CellFormula

/-! ## Literals -/

def TokenKind.IsPlain : TokenKind → Prop
  | literal s => s.IsPlain
  | _ => True

/-- Numerals have no sign, and those out of range are no tokens. -/
theorem Decimal.isPlainNumber_of_toFloat? {d : Decimal} {x : Float}
    (h : d.toFloat? false = some x) : IsPlainNumber x := by
  obtain ⟨hlt, hx⟩ := Option.ite_none_right_eq_some.mp h
  cases hx
  exact isPlainNumber_toFloat hlt nofun

theorem Spells.isPlain {taken : List Char} {kind : TokenKind} (h : Spells taken kind) :
    kind.IsPlain := by
  cases h with
  | single single_eq =>
      unfold Lexeme.single? at single_eq
      split at single_eq <;> cases single_eq <;> trivial
  | pair pair_eq =>
      unfold Lexeme.pair? at pair_eq
      split at pair_eq <;> cases pair_eq <;> trivial
  | text => trivial
  | number spells value => exact Decimal.isPlainNumber_of_toFloat? value
  | error => trivial
  | boolean => trivial

/-! ## Operators -/

namespace Value

/-- The value is a scalar, and plain if it is a number. -/
def IsPlainScalar (v : Value) : Prop :=
  ∃ s, v = scalar s ∧ s.IsPlain

theorem IsPlainScalar.isWellFormed {v : Value} (h : v.IsPlainScalar) : v.IsWellFormed := by
  obtain ⟨s, rfl, hplain⟩ := h
  exact .scalar hplain

theorem isPlainScalar_error (kind : ErrorKind) : (error kind).IsPlainScalar :=
  ⟨.error kind, rfl, trivial⟩

theorem isPlainScalar_ofNumber (x : Float) : (ofNumber x).IsPlainScalar := by
  unfold ofNumber
  split
  · rename_i hfinite
    exact ⟨.number (x + 0), rfl, isPlainNumber_add_zero hfinite⟩
  · exact isPlainScalar_error .num

/-- An operator fails with an error value, so that only its results have to be looked at. -/
theorem isPlainScalar_ofResult {α : Type} {r : Except ErrorKind α} {f : α → Except ErrorKind Value}
    (h : ∀ a, (ofResult (f a)).IsPlainScalar) :
    (ofResult (r >>= f)).IsPlainScalar := by
  cases r with
  | error kind => exact isPlainScalar_error kind
  | ok a => exact h a

theorem isPlainScalar_concat (left right : Value) : (left.concat right).IsPlainScalar :=
  isPlainScalar_ofResult fun _ => isPlainScalar_ofResult fun _ => ⟨.text _, rfl, trivial⟩

theorem isPlainScalar_negate (v : Value) : v.negate.IsPlainScalar :=
  isPlainScalar_ofResult fun _ => isPlainScalar_ofNumber _

theorem isPlainScalar_identity {v : Value} (h : v.IsWellFormed) : v.identity.IsPlainScalar := by
  obtain ⟨s, hs, hplain⟩ := h.exists_firstScalar
  rw [identity, hs]
  exact ⟨s, rfl, hplain⟩

end Value

namespace Arithmetic

theorem isPlainScalar_applyPower (base exponent : Float) :
    (applyPower base exponent).IsPlainScalar := by
  unfold applyPower
  split
  · split
    · exact Value.isPlainScalar_error .num
    · split
      · exact Value.isPlainScalar_error .div0
      · exact ⟨.number 0, rfl, isPlainNumber_zero⟩
  · exact Value.isPlainScalar_ofNumber _

theorem isPlainScalar_applyNumbers (op : Arithmetic) (x y : Float) :
    (op.applyNumbers x y).IsPlainScalar := by
  cases op with
  | add => exact Value.isPlainScalar_ofNumber _
  | subtract => exact Value.isPlainScalar_ofNumber _
  | multiply => exact Value.isPlainScalar_ofNumber _
  | divide =>
      rw [applyNumbers]
      split
      · exact Value.isPlainScalar_error .div0
      · exact Value.isPlainScalar_ofNumber _
  | power => exact isPlainScalar_applyPower x y

end Arithmetic

/-- Whatever the operands, an operator gives a plain scalar. -/
theorem Operator.isPlainScalar_apply (op : Operator) (left right : Value) :
    (op.apply left right).IsPlainScalar := by
  cases op with
  | arithmetic op =>
      exact Value.isPlainScalar_ofResult fun x => Value.isPlainScalar_ofResult fun y =>
        op.isPlainScalar_applyNumbers x y
  | concat => exact Value.isPlainScalar_concat left right
  | comparison op => exact Value.isPlainScalar_ofResult fun _ => ⟨.boolean _, rfl, trivial⟩

/-- The sign `+` passes its operand on, so that this one has to be well formed. -/
theorem Sign.isPlainScalar_apply (sign : Sign) {v : Value} (h : v.IsWellFormed) :
    (sign.apply v).IsPlainScalar := by
  cases sign with
  | minus => exact v.isPlainScalar_negate
  | plus => exact Value.isPlainScalar_identity h

/-! ## Expressions -/

namespace Expr

/-- What expressions read from a formula have in common: their shape, and literals that are plain. -/
structure IsRead (e : Expr) : Prop where
  canonical : e.isCanonical = true
  plain : ∀ kind ∈ e.kinds, kind.IsPlain

theorem IsRead.part {p e : Expr} (h : e.IsRead) (hpart : IsPart p e) : p.IsRead :=
  ⟨hpart.isCanonical h.canonical, fun kind hkind => h.plain kind (hpart.kinds_subset hkind)⟩

theorem IsRead.exists_scalar {v : Value} (h : (literal v).IsRead) :
    ∃ s, v = .scalar s ∧ s.IsPlain := by
  obtain ⟨hcanonical, hplain⟩ := h
  cases v with
  | scalar s => exact ⟨s, rfl, hplain (.literal s) (by simp [kinds])⟩
  | list items => simp [isCanonical] at hcanonical

theorem IsRead.elements_ne_nil {elements : List Expr} (h : (array elements).IsRead) :
    elements ≠ [] := by
  rintro rfl
  exact absurd h.canonical (by simp [isCanonical])

variable {e : Expr}

theorem evaluate_isWellFormed (h : e.IsRead) : e.evaluate.IsWellFormed := by
  induction e with
  | literal v =>
      obtain ⟨s, rfl, hplain⟩ := h.exists_scalar
      rw [evaluate_literal]
      exact .scalar hplain
  | unary sign operand ih =>
      have hoperand := ih (h.part (.operand sign (.whole operand)))
      rw [evaluate_unary]
      exact (sign.isPlainScalar_apply hoperand).isWellFormed
  | binary op left right =>
      rw [evaluate_binary]
      exact (op.isPlainScalar_apply _ _).isWellFormed
  | array elements ih =>
      rw [evaluate_array]
      refine .list (by simpa using h.elements_ne_nil) fun v hv => ?_
      obtain ⟨e, he, rfl⟩ := List.mem_map.mp hv
      exact ih e he (h.part (.element he (.whole e)))
  | group inner ih =>
      rw [evaluate_group]
      exact ih (h.part (.inner (.whole inner)))

/-- Whether the expression is a sign or an operator with its operands. -/
def hasOperands : Expr → Bool
  | unary _ _ => true
  | binary _ _ _ => true
  | _ => false

theorem evaluate_isPlainScalar (h : e.IsRead) (hoperands : e.hasOperands = true) :
    e.evaluate.IsPlainScalar := by
  cases e with
  | unary sign operand =>
      have hoperand := evaluate_isWellFormed (h.part (.operand sign (.whole operand)))
      rw [evaluate_unary]
      exact sign.isPlainScalar_apply hoperand
  | binary op left right =>
      rw [evaluate_binary]
      exact op.isPlainScalar_apply _ _
  | literal v => cases hoperands
  | array elements => cases hoperands
  | group inner => cases hoperands

/-- Lists lie inside one another only where arrays do. -/
theorem depth_evaluate_le (h : e.IsRead) : e.evaluate.depth (fun _ => 0) ≤ e.nesting := by
  induction e with
  | literal v =>
      obtain ⟨s, rfl, -⟩ := h.exists_scalar
      rw [evaluate_literal, Value.depth]
      exact Nat.zero_le _
  | unary sign operand =>
      obtain ⟨s, hs, -⟩ := evaluate_isPlainScalar h rfl
      rw [hs, Value.depth]
      exact Nat.zero_le _
  | binary op left right =>
      obtain ⟨s, hs, -⟩ := evaluate_isPlainScalar h rfl
      rw [hs, Value.depth]
      exact Nat.zero_le _
  | array elements ih =>
      rw [evaluate_array, Value.depth, nesting, Nat.add_le_add_iff_right, Value.depthEach_le_iff]
      intro v hv
      obtain ⟨e, he, rfl⟩ := List.mem_map.mp hv
      have hle := ih e he (h.part (.element he (.whole e)))
      exact Nat.le_trans hle (nestingEach_le_iff.mp (Nat.le_refl _) e he)
  | group inner ih =>
      rw [evaluate_group, nesting]
      exact Nat.le_succ_of_le (ih (h.part (.inner (.whole inner))))

end Expr

namespace Formula

theorem isRead_of_parse {source : String} {e : Expr} (h : parse source = .ok e) :
    e.IsRead ∧ e.nesting ≤ maxNesting := by
  obtain ⟨after, hparse⟩ := Expr.parse_eq_ok_iff.mp h
  obtain ⟨⟨tokens, htokens, hkinds⟩, hcanonical, hnesting⟩ := Expr.parseWithin_sound hparse
  refine ⟨⟨hcanonical, fun kind hkind => ?_⟩, hnesting⟩
  rw [← hkinds] at hkind
  obtain ⟨token, htoken, rfl⟩ := List.mem_map.mp hkind
  have hitem : .ok token ∈ tokenize source := htokens ▸ List.mem_map_of_mem htoken
  exact (TokenStream.spells_of_mem_items hitem).isPlain

/-- In the value of a formula and of all parts of it, numbers are finite and not a negative zero,
lists have elements and are nested within the limit, and what a sign or an operator gives is a
scalar. So no call of the calculation, or of the display of its result, is unsafe: where calls are
ignored the two are done and nothing else, where they are recorded all of them are safe, and what
is done about unsafe calls in any monad is never done. -/
theorem calculate_isWellFormed (source : String) (v : Value) (h : calculate source = .ok v) :
    ∃ e, parse source = .ok e ∧ e.evaluate = v ∧
      (∀ p, Expr.IsPart p e →
        p.evaluate.IsWellFormed ∧ p.evaluate.depth (fun _ => 0) ≤ maxNesting ∧
          (p.hasOperands = true → ∃ s, p.evaluate = .scalar s)) ∧
      e.shownM (m := Id) Call.ignore = (v, v.display) ∧
      (e.shownM Traced.record).Gives (v, v.display) ∧
      ∀ (m : Type → Type) [Monad m] [LawfulMonad m] (note : Call → m Unit),
        (∀ c : Call, c.IsSafe → note c = pure ()) → e.shownM note = pure (v, v.display) := by
  cases hparse : parse source with
  | error err =>
      rw [calculate, hparse] at h
      cases h
  | ok e =>
      rw [calculate, hparse] at h
      cases h
      obtain ⟨hread, hnesting⟩ := isRead_of_parse hparse
      have hparts : ∀ p, Expr.IsPart p e → p.evaluate.IsWellFormed :=
        fun p hp => Expr.evaluate_isWellFormed (hread.part hp)
      refine ⟨e, rfl, rfl, fun p hp => ⟨hparts p hp, ?_, fun hoperands => ?_⟩,
        e.shownM_ignore, Traced.gives_shownM_record hparts,
        fun m _ _ note hnote => Expr.shownM_of_isWellFormed hnote hparts⟩
      · have hdepth := Expr.depth_evaluate_le (hread.part hp)
        exact Nat.le_trans hdepth (Nat.le_trans hp.nesting_le hnesting)
      · obtain ⟨s, hs, -⟩ := Expr.evaluate_isPlainScalar (hread.part hp) hoperands
        exact ⟨s, hs⟩

/-- A text that reads as negative zero, a product out of range, and a text compared with a number. -/
theorem calculate_isWellFormed_edges :
    ∃ e, parse "=\x7b-\"-0\",1e308*10,\"1\"&2<3\x7d" = .ok e ∧
      e.evaluate = .list [.number 0, .error .num, .boolean false] ∧
      (∀ p, Expr.IsPart p e →
        p.evaluate.IsWellFormed ∧ p.evaluate.depth (fun _ => 0) ≤ maxNesting ∧
          (p.hasOperands = true → ∃ s, p.evaluate = .scalar s)) ∧
      e.shownM (m := Id) Call.ignore =
        (.list [.number 0, .error .num, .boolean false], "\x7b0,#NUM!,FALSE\x7d") ∧
      (e.shownM Traced.record).Gives
        (.list [.number 0, .error .num, .boolean false], "\x7b0,#NUM!,FALSE\x7d") ∧
      ∀ (m : Type → Type) [Monad m] [LawfulMonad m] (note : Call → m Unit),
        (∀ c : Call, c.IsSafe → note c = pure ()) → e.shownM note =
          pure (.list [.number 0, .error .num, .boolean false], "\x7b0,#NUM!,FALSE\x7d") := by
  have hcalculate : (calculate "=\x7b-\"-0\",1e308*10,\"1\"&2<3\x7d").toOption =
      some (.list [.number 0, .error .num, .boolean false]) := by decide +kernel
  cases hresult : calculate "=\x7b-\"-0\",1e308*10,\"1\"&2<3\x7d" with
  | error err =>
      rw [hresult] at hcalculate
      cases hcalculate
  | ok v =>
      rw [hresult] at hcalculate
      cases hcalculate
      have hdisplay : (Value.list [.number 0, .error .num, .boolean false]).display =
          "\x7b0,#NUM!,FALSE\x7d" := by decide +kernel
      rw [← hdisplay]
      exact calculate_isWellFormed _ _ hresult

end Formula

end CellFormula
