import CellFormula.Proofs.Evaluation.Equations

/-! # Evaluation along chains of operators

One call of the evaluation walks down the left operands of a chain in a loop, and then applies the
operators from the innermost to the outermost. This gives every expression the value that plain
recursion on both operands gives it, so that any part may be replaced by its value.
-/

namespace CellFormula.Expr

/-! ## One call -/

/-- The first operand of a chain, where the walk down its left operands ends. -/
def chainStart : Expr → Expr
  | binary _ left _ => left.chainStart
  | e => e

/-- The operators of a chain and their right operands, in the order in which they are applied. -/
def chainSteps : Expr → List (Operator × Expr)
  | binary op left right => left.chainSteps ++ [(op, right)]
  | _ => []

section Call

variable {m : Type → Type} [Monad m] (call : Expr → m Value)

/-- Apply the next operator of a chain, after a call for its right operand. -/
def applyStep (v : Value) (step : Operator × Expr) : m Value := do
  let right ← call step.2
  return step.1.apply v right

/-- One call of the evaluation, given the way in which it makes further calls. -/
def evaluateOnce : Expr → m Value
  | literal v => return v
  | unary sign operand => do
    let v ← call operand
    return sign.apply v
  | binary op left right => do
    let start ← call left.chainStart
    (binary op left right).chainSteps.foldlM (applyStep call) start
  | array elements => do
    let items ← elements.mapM call
    return .list items
  | group inner => call inner

end Call

/-- What one call gives if the calls that it makes give what `f` says. -/
def answer (f : Expr → Value) (e : Expr) : Value :=
  Id.run (e.evaluateOnce fun p => pure (f p))

/-- The expressions for which one call of the evaluation makes further calls. -/
def callees : Expr → List Expr
  | literal _ => []
  | unary _ operand => [operand]
  | binary op left right => left.chainStart :: (binary op left right).chainSteps.map Prod.snd
  | array elements => elements
  | group inner => [inner]

theorem run_foldlM_applyStep (f : Expr → Value) (steps : List (Operator × Expr)) (v : Value) :
    Id.run (steps.foldlM (applyStep fun p => pure (f p)) v) =
      applyAll v (steps.map fun step => (step.1, f step.2)) := by
  induction steps generalizing v with
  | nil => rfl
  | cons step steps ih => exact ih (step.1.apply v (f step.2))

theorem answer_binary (f : Expr → Value) (op : Operator) (left right : Expr) :
    (binary op left right).answer f =
      applyAll (f left.chainStart)
        ((binary op left right).chainSteps.map fun step => (step.1, f step.2)) :=
  run_foldlM_applyStep f _ _

theorem answer_array (f : Expr → Value) (elements : List Expr) :
    (array elements).answer f = .list (elements.map f) := by
  simp [answer, evaluateOnce]

theorem applyAll_concat (v : Value) (pending : List (Operator × Value)) (op : Operator)
    (right : Value) :
    applyAll v (pending ++ [(op, right)]) = op.apply (applyAll v pending) right := by
  simp [applyAll]

/-- The walk down a chain and back gives its value. -/
theorem applyAll_chain (e : Expr) :
    applyAll e.chainStart.evaluate (e.chainSteps.map fun step => (step.1, step.2.evaluate)) =
      e.evaluate := by
  induction e with
  | literal v => rfl
  | unary sign operand => rfl
  | binary op left right ihl =>
      rw [chainStart, chainSteps, List.map_append, List.map_singleton, applyAll_concat, ihl,
        evaluate_binary]
  | array elements => rfl
  | group inner => rfl

theorem answer_evaluate (e : Expr) : e.answer evaluate = e.evaluate := by
  cases e with
  | literal v =>
      rw [evaluate_literal]
      rfl
  | unary sign operand =>
      rw [evaluate_unary]
      rfl
  | binary op left right =>
      rw [answer_binary]
      exact applyAll_chain (binary op left right)
  | array elements => rw [answer_array, evaluate_array]
  | group inner =>
      rw [evaluate_group]
      rfl

/-- A call depends on nothing but what the calls that it makes give. -/
theorem answer_congr {f g : Expr → Value} {e : Expr} (h : ∀ p ∈ e.callees, f p = g p) :
    e.answer f = e.answer g := by
  cases e with
  | literal v => rfl
  | unary sign operand => exact congrArg sign.apply (h operand List.mem_cons_self)
  | binary op left right =>
      have hstart := h left.chainStart List.mem_cons_self
      have hsteps : ∀ step ∈ (binary op left right).chainSteps,
          (step.1, f step.2) = (step.1, g step.2) := by
        intro step hstep
        rw [h step.2 (List.mem_cons_of_mem _ (List.mem_map_of_mem hstep))]
      rw [answer_binary, answer_binary, hstart, List.map_congr_left hsteps]
  | array elements =>
      rw [answer_array, answer_array]
      exact congrArg Value.list (List.map_congr_left h)
  | group inner => exact h inner List.mem_cons_self

/-! ## Calls on smaller expressions -/

theorem isPart_chainStart (e : Expr) : IsPart e.chainStart e := by
  induction e with
  | binary op left right ihl => exact .left op right ihl
  | _ => exact .whole _

theorem isPart_of_mem_chainSteps {e right : Expr} {op : Operator}
    (h : (op, right) ∈ e.chainSteps) : IsPart right e := by
  induction e with
  | binary op' left right' ihl =>
      rcases List.mem_append.mp h with h | h
      · exact .left op' right' (ihl h)
      · cases List.mem_singleton.mp h
        exact .right op left (.whole right)
  | _ => cases h

/-- Calls are made for parts. -/
theorem isPart_of_mem_callees {p e : Expr} (h : p ∈ e.callees) : IsPart p e := by
  cases e with
  | literal v => cases h
  | unary sign operand =>
      cases List.mem_singleton.mp h
      exact .operand sign (.whole p)
  | binary op left right =>
      rcases List.mem_cons.mp h with rfl | h
      · exact isPart_chainStart (binary op left right)
      · obtain ⟨⟨op', p⟩, hstep, rfl⟩ := List.mem_map.mp h
        exact isPart_of_mem_chainSteps hstep
  | array elements => exact .element h (.whole p)
  | group inner =>
      cases List.mem_singleton.mp h
      exact .inner (.whole p)

theorem IsPart.sizeOf_le {p e : Expr} (h : IsPart p e) : sizeOf p ≤ sizeOf e := by
  induction h with
  | whole => exact Nat.le_refl _
  | operand sign _ ih =>
      rw [unary.sizeOf_spec]
      omega
  | left op right _ ih =>
      rw [binary.sizeOf_spec]
      omega
  | right op left _ ih =>
      rw [binary.sizeOf_spec]
      omega
  | element he _ ih =>
      have hlt := List.sizeOf_lt_of_mem he
      rw [array.sizeOf_spec]
      omega
  | inner _ ih =>
      rw [group.sizeOf_spec]
      omega

theorem sizeOf_lt_of_mem_callees {p e : Expr} (h : p ∈ e.callees) : sizeOf p < sizeOf e := by
  cases e with
  | literal v => cases h
  | unary sign operand =>
      cases List.mem_singleton.mp h
      rw [unary.sizeOf_spec]
      omega
  | binary op left right =>
      rw [binary.sizeOf_spec]
      rcases List.mem_cons.mp h with rfl | h
      · have hle := left.isPart_chainStart.sizeOf_le
        omega
      · obtain ⟨⟨op', p⟩, hstep, rfl⟩ := List.mem_map.mp h
        rcases List.mem_append.mp hstep with hstep | hstep
        · have hle := (isPart_of_mem_chainSteps hstep).sizeOf_le
          dsimp only
          omega
        · cases List.mem_singleton.mp hstep
          dsimp only
          omega
  | array elements =>
      have hlt : sizeOf p < sizeOf elements := List.sizeOf_lt_of_mem h
      rw [array.sizeOf_spec]
      omega
  | group inner =>
      cases List.mem_singleton.mp h
      rw [group.sizeOf_spec]
      omega

/-- Induction along the calls of an evaluation. -/
theorem calls_induction {motive : Expr → Prop}
    (step : ∀ e, (∀ p ∈ e.callees, motive p) → motive e) (e : Expr) : motive e :=
  step e fun p _ => calls_induction step p
termination_by sizeOf e
decreasing_by exact sizeOf_lt_of_mem_callees ‹_›

/-- Evaluation is the only way to answer every call from the calls that it makes. -/
theorem eq_evaluate_iff {f : Expr → Value} :
    f = evaluate ↔ ∀ e, f e = e.answer f := by
  constructor
  · rintro rfl e
    exact (answer_evaluate e).symm
  · intro h
    funext e
    induction e using calls_induction with
    | step e ih => rw [h e, answer_congr ih, answer_evaluate]

/-! ## Plain recursion -/

mutual

/-- The value by recursion on every operand. -/
def plainValue : Expr → Value
  | literal v => v
  | unary sign operand => sign.apply operand.plainValue
  | binary op left right => op.apply left.plainValue right.plainValue
  | array elements => .list (plainValueEach elements)
  | group inner => inner.plainValue

def plainValueEach : List Expr → List Value
  | [] => []
  | e :: rest => e.plainValue :: plainValueEach rest

end

theorem plainValueEach_eq_map (es : List Expr) : plainValueEach es = es.map plainValue := by
  induction es with
  | nil => rw [plainValueEach, List.map_nil]
  | cons e rest ih => rw [plainValueEach, ih, List.map_cons]

theorem evaluate_eq_plainValue (e : Expr) : e.evaluate = e.plainValue := by
  induction e with
  | literal v => rw [evaluate_literal, plainValue]
  | unary sign operand ih => rw [evaluate_unary, plainValue, ih]
  | binary op left right ihl ihr => rw [evaluate_binary, plainValue, ihl, ihr]
  | array elements ih =>
      rw [evaluate_array, plainValue, plainValueEach_eq_map, List.map_congr_left ih]
  | group inner ih => rw [evaluate_group, plainValue, ih]

/-! ## Parts replaced by their values -/

/-- What stands directly around a part of an expression. -/
inductive Frame where
  | operand (sign : Sign)
  | leftOf (op : Operator) (right : Expr)
  | rightOf (op : Operator) (left : Expr)
  | element (before after : List Expr)
  | inner

/-- The expression that has the part inside the frame. -/
def Frame.fill : Frame → Expr → Expr
  | operand sign, e => unary sign e
  | leftOf op right, e => binary op e right
  | rightOf op left, e => binary op left e
  | element before after, e => array (before ++ e :: after)
  | inner, e => group e

/-- The expression that has the part inside all frames, the last of which is the innermost. They
tell the position of the part. -/
def fill (frames : List Frame) (e : Expr) : Expr :=
  frames.foldr Frame.fill e

theorem Frame.isPart_fill (frame : Frame) {p e : Expr} (h : IsPart p e) :
    IsPart p (frame.fill e) := by
  cases frame with
  | operand sign => exact .operand sign h
  | leftOf op right => exact .left op right h
  | rightOf op left => exact .right op left h
  | element before after => exact .element (by simp) h
  | inner => exact .inner h

theorem isPart_fill (frames : List Frame) (p : Expr) : IsPart p (fill frames p) := by
  induction frames with
  | nil => exact .whole p
  | cons frame frames ih => exact frame.isPart_fill ih

/-- Every part has a position. -/
theorem IsPart.exists_fill {p e : Expr} (h : IsPart p e) : ∃ frames, fill frames p = e := by
  induction h with
  | whole => exact ⟨[], rfl⟩
  | operand sign _ ih =>
      obtain ⟨frames, rfl⟩ := ih
      exact ⟨.operand sign :: frames, rfl⟩
  | left op right _ ih =>
      obtain ⟨frames, rfl⟩ := ih
      exact ⟨.leftOf op right :: frames, rfl⟩
  | right op left _ ih =>
      obtain ⟨frames, rfl⟩ := ih
      exact ⟨.rightOf op left :: frames, rfl⟩
  | element he _ ih =>
      obtain ⟨frames, rfl⟩ := ih
      obtain ⟨before, after, rfl⟩ := List.append_of_mem he
      exact ⟨.element before after :: frames, rfl⟩
  | inner _ ih =>
      obtain ⟨frames, rfl⟩ := ih
      exact ⟨.inner :: frames, rfl⟩

theorem isPart_iff_exists_fill {p e : Expr} : IsPart p e ↔ ∃ frames, fill frames p = e := by
  constructor
  · exact IsPart.exists_fill
  · rintro ⟨frames, rfl⟩
    exact isPart_fill frames p

/-- Around a part, only its value matters. -/
theorem Frame.evaluate_fill (frame : Frame) {p q : Expr} (h : p.evaluate = q.evaluate) :
    (frame.fill p).evaluate = (frame.fill q).evaluate := by
  cases frame <;> simp [fill, h]

theorem evaluate_fill (frames : List Frame) {p q : Expr} (h : p.evaluate = q.evaluate) :
    (fill frames p).evaluate = (fill frames q).evaluate := by
  induction frames with
  | nil => exact h
  | cons frame frames ih => exact frame.evaluate_fill ih

/-- The loop along chains gives an operator the values of its two operands, however these are
nested. It is the only solution of its own recursion and the same as plain recursion, and a part at
any position may be replaced by its value. -/
theorem evaluate_recursive :
    (∀ op left right, (binary op left right).evaluate = op.apply left.evaluate right.evaluate) ∧
    (∀ f : Expr → Value, f = evaluate ↔ ∀ e, f e = e.answer f) ∧
    (∀ e : Expr, e.evaluate = e.plainValue) ∧
    (∀ p e : Expr, IsPart p e ↔ ∃ frames, fill frames p = e) ∧
    ∀ (frames : List Frame) (p : Expr),
      (fill frames (literal p.evaluate)).evaluate = (fill frames p).evaluate := by
  refine ⟨evaluate_binary, fun _ => eq_evaluate_iff, evaluate_eq_plainValue,
    fun _ _ => isPart_iff_exists_fill, fun frames p => ?_⟩
  exact evaluate_fill frames (evaluate_literal p.evaluate)

end CellFormula.Expr
