import CellFormula.Proofs.Evaluation.Chains
import CellFormula.Proofs.Parser.Soundness

/-! # How deep the evaluation of a formula recurses

A call of the evaluation goes on to operands that are nested deeper, or that bind tighter than the
chain they stand in. There are five tiers of operators, so that the number of calls that are active
at once is bounded by the nesting of the formula and not by its length.
-/

namespace CellFormula.Expr

/-! ## The calls that one call makes -/

/-- Note the call down before it is answered. -/
def recordCall (f : Expr → Value) (p : Expr) : StateM (List Expr) Value := do
  modify (· ++ [p])
  return f p

section Recorded

variable (f : Expr → Value)

theorem run_foldlM_recordCall (steps : List (Operator × Expr)) (v : Value) (log : List Expr) :
    (steps.foldlM (applyStep (recordCall f)) v).run log =
      (applyAll v (steps.map fun step => (step.1, f step.2)), log ++ steps.map Prod.snd) := by
  induction steps generalizing v log with
  | nil => exact Prod.ext rfl (List.append_nil log).symm
  | cons step steps ih =>
      calc
        _ = (steps.foldlM (applyStep (recordCall f)) (step.1.apply v (f step.2))).run
              (log ++ [step.2]) := rfl
        _ = _ := by rw [ih]; simp [applyAll]

theorem run_mapM_recordCall (es log : List Expr) :
    (es.mapM (recordCall f)).run log = (es.map f, log ++ es) := by
  induction es generalizing log with
  | nil => exact Prod.ext rfl (List.append_nil log).symm
  | cons e es ih =>
      rw [List.mapM_cons]
      calc
        _ = (f e :: ((es.mapM (recordCall f)).run (log ++ [e])).1,
              ((es.mapM (recordCall f)).run (log ++ [e])).2) := rfl
        _ = _ := by rw [ih]; simp

/-- One call makes exactly the calls for its callees, one after the other. -/
theorem run_evaluateOnce_recordCall (e : Expr) (log : List Expr) :
    (e.evaluateOnce (recordCall f)).run log = (e.answer f, log ++ e.callees) := by
  cases e with
  | literal v => exact Prod.ext rfl (List.append_nil log).symm
  | unary sign operand => rfl
  | binary op left right =>
      calc
        _ = ((binary op left right).chainSteps.foldlM (applyStep (recordCall f))
              (f left.chainStart)).run (log ++ [left.chainStart]) := rfl
        _ = _ := by rw [run_foldlM_recordCall, answer_binary]; simp [callees]
  | array elements =>
      calc
        _ = (Value.list ((elements.mapM (recordCall f)).run log).1,
              ((elements.mapM (recordCall f)).run log).2) := rfl
        _ = _ := by rw [run_mapM_recordCall, answer_array, callees]
  | group inner => rfl

end Recorded

/-! ## Active calls -/

/-- The greatest number of calls that are active at once while an expression is evaluated: one more
than for the deepest of the calls that its own call makes. -/
def callDepth (e : Expr) : Nat :=
  (e.callees.attach.map fun p => p.1.callDepth).max?.getD 0 + 1
termination_by sizeOf e
decreasing_by exact sizeOf_lt_of_mem_callees p.2

theorem callDepth_eq (e : Expr) : e.callDepth = (e.callees.map callDepth).max?.getD 0 + 1 := by
  rw [callDepth, List.attach_map_val]

/-- Calls that are active at once, from the first one on. Each is made by the one before it. -/
inductive CallStack : Expr → List Expr → Prop where
  | single (e : Expr) : CallStack e [e]
  | call {e p : Expr} {stack : List Expr} (callee : p ∈ e.callees) (deeper : CallStack p stack) :
      CallStack e (e :: stack)

theorem callDepth_lt_of_mem_callees {p e : Expr} (h : p ∈ e.callees) :
    p.callDepth < e.callDepth := by
  rw [callDepth_eq e]
  exact Nat.lt_succ_of_le (List.le_max?_getD_of_mem (List.mem_map_of_mem h))

theorem CallStack.length_le_callDepth {e : Expr} {stack : List Expr} (h : CallStack e stack) :
    stack.length ≤ e.callDepth := by
  induction h with
  | single e =>
      rw [callDepth_eq]
      exact Nat.le_add_left 1 _
  | call callee _ ih =>
      have hlt := callDepth_lt_of_mem_callees callee
      rw [List.length_cons]
      omega

theorem exists_callStack (e : Expr) : ∃ stack, CallStack e stack ∧ stack.length = e.callDepth := by
  induction e using calls_induction with
  | step e ih =>
      rw [callDepth_eq]
      cases hmax : (e.callees.map callDepth).max? with
      | none => exact ⟨[e], .single e, rfl⟩
      | some depth =>
          obtain ⟨p, hp, rfl⟩ := List.mem_map.mp (List.max?_mem hmax)
          obtain ⟨stack, hstack, hlength⟩ := ih p hp
          refine ⟨e :: stack, .call hp hstack, ?_⟩
          rw [List.length_cons, hlength, Option.getD_some]

/-! ## Calls go deeper or bind tighter -/

theorem tier_chainStart (e : Expr) : e.chainStart.tier = 6 := by
  induction e with
  | binary op left right ihl => exact ihl
  | _ => rfl

/-- Every right operand binds tighter than the chain that it stands in. -/
theorem tier_lt_of_mem_chainSteps {e right : Expr} {op : Operator}
    (hcanonical : e.isCanonical = true) (h : (op, right) ∈ e.chainSteps) :
    e.tier < right.tier := by
  induction e with
  | binary op' left right' ihl =>
      simp only [isCanonical, Bool.and_eq_true, decide_eq_true_eq] at hcanonical
      obtain ⟨⟨⟨hleft, hright⟩, hcanonical⟩, -⟩ := hcanonical
      rcases List.mem_append.mp h with h | h
      · exact Nat.lt_of_le_of_lt hleft (ihl hcanonical h)
      · cases List.mem_singleton.mp h
        exact hright
  | _ => cases h

/-- A bound for the number of active calls. A level of nesting is worth all tiers. -/
def callBound (e : Expr) : Nat :=
  6 * e.nesting + (7 - e.tier)

theorem callBound_lt_of_tier_lt {p e : Expr} (hnesting : p.nesting ≤ e.nesting)
    (htier : e.tier < p.tier) : p.callBound < e.callBound := by
  have hle := p.tier_le_six
  rw [callBound, callBound]
  omega

theorem callBound_lt_of_nesting_lt {p e : Expr} (h : p.nesting < e.nesting) :
    p.callBound < e.callBound := by
  have hone := p.one_le_tier
  have hle := e.tier_le_six
  rw [callBound, callBound]
  omega

/-- Every call comes closer to the bound. -/
theorem callBound_lt_of_mem_callees {p e : Expr} (hcanonical : e.isCanonical = true)
    (h : p ∈ e.callees) : p.callBound < e.callBound := by
  have hnesting := (isPart_of_mem_callees h).nesting_le
  cases e with
  | literal v => cases h
  | unary sign operand =>
      cases List.mem_singleton.mp h
      apply callBound_lt_of_nesting_lt
      rw [nesting]
      omega
  | binary op left right =>
      -- The operands of a chain need not be nested deeper, but they all bind tighter than it does.
      apply callBound_lt_of_tier_lt hnesting
      rcases List.mem_cons.mp h with rfl | h
      · rw [tier_chainStart]
        exact Nat.lt_succ_of_le op.tier_le_five
      · obtain ⟨⟨op', p⟩, hstep, rfl⟩ := List.mem_map.mp h
        exact tier_lt_of_mem_chainSteps hcanonical hstep
  | array elements =>
      have hle := nestingEach_le_iff.mp (Nat.le_refl (nestingEach elements)) p h
      apply callBound_lt_of_nesting_lt
      rw [nesting]
      omega
  | group inner =>
      cases List.mem_singleton.mp h
      apply callBound_lt_of_nesting_lt
      rw [nesting]
      omega

theorem CallStack.length_le_callBound {e : Expr} {stack : List Expr} (h : CallStack e stack)
    (hcanonical : e.isCanonical = true) : stack.length ≤ e.callBound := by
  induction h with
  | single e =>
      have hle := e.tier_le_six
      rw [callBound, List.length_singleton]
      omega
  | call callee _ ih =>
      have hlt := callBound_lt_of_mem_callees hcanonical callee
      have hle := ih ((isPart_of_mem_callees callee).isCanonical hcanonical)
      rw [List.length_cons]
      omega

theorem callDepth_le {e : Expr} (hcanonical : e.isCanonical = true) :
    e.callDepth ≤ 6 * (e.nesting + 1) := by
  obtain ⟨stack, hstack, hlength⟩ := exists_callStack e
  have hle := hstack.length_le_callBound hcanonical
  have hone := e.one_le_tier
  rw [← hlength]
  rw [callBound] at hle
  omega

/-- Calls are active at once where each is made by the one before. For a formula these are at most
six for each level of nesting and six more. This is at most 390, however many tokens the formula
has. -/
theorem parse_callDepth_le (items : List TokenItem) (e : Expr) (h : parse items = .ok e) :
    (∀ (f : Expr → Value) (p : Expr),
      (p.evaluateOnce (recordCall f)).run [] = (p.answer f, p.callees)) ∧
    (∀ stack, CallStack e stack → stack.length ≤ e.callDepth) ∧
    (∃ stack, CallStack e stack ∧ stack.length = e.callDepth) ∧
    e.callDepth ≤ 6 * (e.nesting + 1) ∧ e.nesting ≤ 64 ∧ e.callDepth ≤ 390 := by
  obtain ⟨after, hparse⟩ := parse_eq_ok_iff.mp h
  obtain ⟨-, hcanonical, hnesting⟩ := parseWithin_sound hparse
  have hdepth := callDepth_le hcanonical
  have hlimit : e.nesting ≤ 64 := hnesting
  refine ⟨fun f p => run_evaluateOnce_recordCall f p [], fun _ hstack => hstack.length_le_callDepth,
    exists_callStack e, hdepth, hlimit, ?_⟩
  omega

/-- Read from the tokens of `TRUE=TRUE&TRUE+TRUE*TRUE^-TRUE`, where each tier takes a call. -/
theorem parse_callDepth_le_tiers :
    let tiers : List Operator := [.comparison .equal, .concat, .arithmetic .add,
      .arithmetic .multiply, .arithmetic .power]
    let e := tiers.foldr (fun op e => binary op (literal (.boolean true)) e)
      (unary .minus (literal (.boolean true)))
    e.callDepth = 7 ∧ e.callDepth ≤ 6 * (e.nesting + 1) ∧ e.callDepth ≤ 390 := by
  intro tiers e
  have hparse : parse ((tiers.flatMap fun op =>
      [.ok ⟨.literal (.boolean true), "TRUE", 0⟩, .ok ⟨.operator op, op.symbol, 4⟩]) ++
      [.ok ⟨.operator (.arithmetic .subtract), "-", 25⟩,
        .ok ⟨.literal (.boolean true), "TRUE", 26⟩]) = .ok e := rfl
  obtain ⟨-, -, -, hdepth, -, hbound⟩ := parse_callDepth_le _ _ hparse
  refine ⟨?_, hdepth, hbound⟩
  simp [e, tiers, callDepth_eq, callees, chainStart, chainSteps]

end CellFormula.Expr
