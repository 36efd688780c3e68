import CellFormula.Proofs.Evaluation.Equations
import CellFormula.Proofs.Value.WellFormed

/-! # The calls of an evaluation

Evaluation and display in a monad, with a note of each call that relies on its arguments. A
judgement that holds of the notes holds of the whole computation. So where the notes are ignored,
these are the evaluation and the display themselves, and where they are recorded, the record of an
evaluation on well-formed operands holds only calls that may rely on their arguments.
-/

namespace CellFormula

/-- A call that relies on its arguments: the reduction of a value to its first scalar, the
comparison of two scalars, and the writing of a number. -/
inductive Call where
  | reduce (v : Value)
  | compare (s t : Scalar)
  | write (x : Float)

/-- A value that is reduced has a first scalar, nothing that is compared is a NaN, and a number that
is written is finite. -/
def Call.IsSafe : Call → Prop
  | reduce v => ∃ s, v.firstScalar = .ok s
  | compare s t => ∀ x, s = .number x ∨ t = .number x → x.isNaN = false
  | write x => x.isFinite = true

/-! ## Evaluation with a note of each call -/

section Noted

variable {m : Type → Type} [Monad m] (note : Call → m Unit)

def writeM (x : Float) : m String := do
  note (.write x)
  return cellNumber.write x

namespace Value

def firstScalarM (v : Value) : m (Except ErrorKind Scalar) := do
  note (.reduce v)
  return v.firstScalar

def toNumberM (v : Value) : m (Except ErrorKind Float) := do
  let s ← v.firstScalarM note
  return s.bind Scalar.toNumber

end Value

def Scalar.toTextM : Scalar → m (Except ErrorKind String)
  | number x => do
    let s ← writeM note x
    return .ok s
  | s => return s.toText

def Value.toTextM (v : Value) : m (Except ErrorKind String) := do
  match ← v.firstScalarM note with
  | .ok s => s.toTextM note
  | .error kind => return .error kind

/-- Both operands are coerced, also when the first coercion fails. -/
def Arithmetic.applyM (op : Arithmetic) (left right : Value) : m Value := do
  let x ← left.toNumberM note
  let y ← right.toNumberM note
  return .ofResult do
    return op.applyNumbers (← x) (← y)

namespace Value

/-- Both operands are coerced, also when the first coercion fails. -/
def concatM (left right : Value) : m Value := do
  let s ← left.toTextM note
  let t ← right.toTextM note
  return ofResult do
    return text ((← s) ++ (← t))

def negateM (v : Value) : m Value := do
  let x ← v.toNumberM note
  return ofResult do
    return ofNumber (-(← x))

def identityM (v : Value) : m Value := do
  let s ← v.firstScalarM note
  return ofResult do
    return scalar (← s)

/-- The value on the right is not reduced where there is no scalar on the left. -/
def compareM (left right : Value) : m (Except ErrorKind Ordering) := do
  match ← left.firstScalarM note with
  | .error kind => return .error kind
  | .ok s =>
    match ← right.firstScalarM note with
    | .error kind => return .error kind
    | .ok t =>
      note (.compare s t)
      return s.compare t

end Value

def Comparison.applyM (op : Comparison) (left right : Value) : m Value := do
  let order ← left.compareM note right
  return .ofResult do
    return .boolean (op.holds (← order))

def Operator.applyM : Operator → Value → Value → m Value
  | arithmetic op, left, right => op.applyM note left right
  | concat, left, right => left.concatM note right
  | comparison op, left, right => op.applyM note left right

def Sign.applyM : Sign → Value → m Value
  | minus, v => v.negateM note
  | plus, v => v.identityM note

namespace Expr

mutual

def evaluateM : Expr → m Value
  | literal v => return v
  | unary sign operand => do
    let v ← evaluateM operand
    sign.applyM note v
  | binary op left right => do
    let v ← evaluateM left
    let w ← evaluateM right
    op.applyM note v w
  | array elements => do
    let items ← evaluateEachM elements
    return .list items
  | group inner => evaluateM inner

def evaluateEachM : List Expr → m (List Value)
  | [] => return []
  | e :: rest => do
    let item ← evaluateM e
    let items ← evaluateEachM rest
    return item :: items

end

end Expr

namespace Value

mutual

def inListM : Value → m String
  | scalar (.number x) => writeM note x
  | scalar s => return s.inList
  | list items => do
    let texts ← inListEachM items
    return "\x7b" ++ ",".intercalate texts ++ "\x7d"

def inListEachM : List Value → m (List String)
  | [] => return []
  | item :: rest => do
    let shown ← inListM item
    let texts ← inListEachM rest
    return shown :: texts

end

def displayM : Value → m String
  | text s => return s
  | v => v.inListM note

end Value

/-- The value of an expression and its display. -/
def Expr.shownM (e : Expr) : m (Value × String) := do
  let v ← e.evaluateM note
  let shown ← v.displayM note
  return (v, shown)

end Noted

/-! ## Results along a computation -/

/-- What it means for a computation to give a result. It holds of `pure` and is kept by `bind`. -/
structure Judgement (m : Type → Type) [Monad m] where
  Gives {α : Type} : m α → α → Prop
  pure {α : Type} (a : α) : Gives (Pure.pure a) a
  bind {α β : Type} {x : m α} {f : α → m β} {a : α} {b : β} :
    Gives x a → Gives (f a) b → Gives (x >>= f) b

section Judged

variable {m : Type → Type} [Monad m] {note : Call → m Unit} {J : Judgement m} {P : Value → Prop}

/-- The judgement holds of the notes about values of a class that has the elements of its lists. -/
structure Judgement.Accepts (J : Judgement m) (note : Call → m Unit) (P : Value → Prop) : Prop where
  element {items : List Value} (h : P (.list items)) : ∀ v ∈ items, P v
  reduce {v : Value} (h : P v) : J.Gives (note (.reduce v)) ()
  compare {v w : Value} {s t : Scalar} (hv : P v) (hw : P w) (hs : v.firstScalar = .ok s)
    (ht : w.firstScalar = .ok t) : J.Gives (note (.compare s t)) ()
  write {v : Value} {x : Float} (h : P v) (hx : v.firstScalar = .ok (.number x)) :
    J.Gives (note (.write x)) ()

theorem gives_writeM (hnote : J.Accepts note P) {v : Value} {x : Float} (h : P v)
    (hx : v.firstScalar = .ok (.number x)) :
    J.Gives (writeM note x) (cellNumber.write x) :=
  J.bind (hnote.write h hx) (J.pure _)

namespace Value

variable {v left right : Value}

theorem gives_firstScalarM (hnote : J.Accepts note P) (h : P v) :
    J.Gives (v.firstScalarM note) v.firstScalar :=
  J.bind (hnote.reduce h) (J.pure _)

theorem gives_toNumberM (hnote : J.Accepts note P) (h : P v) :
    J.Gives (v.toNumberM note) v.toNumber :=
  J.bind (gives_firstScalarM hnote h) (J.pure _)

theorem gives_toTextM (hnote : J.Accepts note P) (h : P v) :
    J.Gives (v.toTextM note) v.toText := by
  refine J.bind (gives_firstScalarM hnote h) ?_
  rw [toText]
  cases hfirst : v.firstScalar with
  | error kind => exact J.pure _
  | ok s =>
      cases s with
      | number x => exact J.bind (gives_writeM hnote h hfirst) (J.pure _)
      | text t => exact J.pure _
      | boolean b => exact J.pure _
      | error kind => exact J.pure _

theorem gives_compareM (hnote : J.Accepts note P) (hl : P left) (hr : P right) :
    J.Gives (left.compareM note right) (left.compare right) := by
  refine J.bind (gives_firstScalarM hnote hl) ?_
  rw [compare]
  cases hs : left.firstScalar with
  | error kind => exact J.pure _
  | ok s =>
      refine J.bind (gives_firstScalarM hnote hr) ?_
      cases ht : right.firstScalar with
      | error kind => exact J.pure _
      | ok t => exact J.bind (hnote.compare hl hr hs ht) (J.pure _)

end Value

theorem Operator.gives_applyM (hnote : J.Accepts note P) (op : Operator) {left right : Value}
    (hl : P left) (hr : P right) :
    J.Gives (op.applyM note left right) (op.apply left right) := by
  cases op with
  | arithmetic op =>
      exact J.bind (Value.gives_toNumberM hnote hl)
        (J.bind (Value.gives_toNumberM hnote hr) (J.pure _))
  | concat =>
      exact J.bind (Value.gives_toTextM hnote hl) (J.bind (Value.gives_toTextM hnote hr) (J.pure _))
  | comparison op => exact J.bind (Value.gives_compareM hnote hl hr) (J.pure _)

theorem Sign.gives_applyM (hnote : J.Accepts note P) (sign : Sign) {v : Value} (h : P v) :
    J.Gives (sign.applyM note v) (sign.apply v) := by
  cases sign with
  | minus => exact J.bind (Value.gives_toNumberM hnote h) (J.pure _)
  | plus => exact J.bind (Value.gives_firstScalarM hnote h) (J.pure _)

namespace Expr

theorem gives_evaluateEachM {es : List Expr}
    (h : ∀ e ∈ es, J.Gives (e.evaluateM note) e.evaluate) :
    J.Gives (evaluateEachM note es) (es.map evaluate) := by
  induction es with
  | nil =>
      rw [evaluateEachM]
      exact J.pure []
  | cons e rest ih =>
      obtain ⟨he, hrest⟩ := List.forall_mem_cons.mp h
      rw [evaluateEachM]
      exact J.bind he (J.bind (ih hrest) (J.pure _))

theorem gives_evaluateM (hnote : J.Accepts note P) {e : Expr}
    (h : ∀ p, IsPart p e → P p.evaluate) : J.Gives (e.evaluateM note) e.evaluate := by
  induction e with
  | literal v =>
      rw [evaluateM, evaluate_literal]
      exact J.pure v
  | unary sign operand ih =>
      have hoperand := h operand (.operand sign (.whole operand))
      rw [evaluateM, evaluate_unary]
      exact J.bind (ih fun p hp => h p (.operand sign hp)) (sign.gives_applyM hnote hoperand)
  | binary op left right ihl ihr =>
      have hleft := h left (.left op right (.whole left))
      have hright := h right (.right op left (.whole right))
      rw [evaluateM, evaluate_binary]
      exact J.bind (ihl fun p hp => h p (.left op right hp))
        (J.bind (ihr fun p hp => h p (.right op left hp)) (op.gives_applyM hnote hleft hright))
  | array elements ih =>
      have heach : ∀ e ∈ elements, J.Gives (e.evaluateM note) e.evaluate :=
        fun e he => ih e he fun p hp => h p (.element he hp)
      rw [evaluateM, evaluate_array]
      exact J.bind (gives_evaluateEachM heach) (J.pure _)
  | group inner ih =>
      rw [evaluateM, evaluate_group]
      exact ih fun p hp => h p (.inner hp)

end Expr

namespace Value

theorem gives_inListEachM {items : List Value}
    (h : ∀ v ∈ items, J.Gives (v.inListM note) v.inList) :
    J.Gives (inListEachM note items) (inListEach items) := by
  induction items with
  | nil =>
      rw [inListEachM, inListEach]
      exact J.pure []
  | cons item rest ih =>
      obtain ⟨hitem, hrest⟩ := List.forall_mem_cons.mp h
      rw [inListEachM, inListEach]
      exact J.bind hitem (J.bind (ih hrest) (J.pure _))

theorem gives_inListM (hnote : J.Accepts note P) {v : Value} (h : P v) :
    J.Gives (v.inListM note) v.inList := by
  induction v with
  | scalar s =>
      rw [inList]
      cases s with
      | number x =>
          rw [inListM]
          exact gives_writeM hnote h (by rw [firstScalar])
      | text t => exact J.pure _
      | boolean b => exact J.pure _
      | error kind => exact J.pure _
  | list items ih =>
      rw [inListM, inList]
      exact J.bind (gives_inListEachM fun v hv => ih v hv (hnote.element h v hv)) (J.pure _)

theorem gives_displayM (hnote : J.Accepts note P) {v : Value} (h : P v) :
    J.Gives (v.displayM note) v.display := by
  unfold displayM
  split
  · exact J.pure _
  · rename_i hne
    rw [display]
    · exact gives_inListM hnote h
    · exact hne

end Value

/-- If the values of all parts of an expression are in the class, the expression is evaluated and
its value displayed. -/
theorem Expr.gives_shownM (hnote : J.Accepts note P) {e : Expr}
    (h : ∀ p, IsPart p e → P p.evaluate) :
    J.Gives (e.shownM note) (e.evaluate, e.evaluate.display) :=
  J.bind (gives_evaluateM hnote h)
    (J.bind (Value.gives_displayM hnote (h e (.whole e))) (J.pure _))

theorem isSafe_compare {s t : Scalar} (hs : s.IsPlain) (ht : t.IsPlain) :
    (Call.compare s t).IsSafe := by
  rintro x (rfl | rfl)
  · exact IsPlainNumber.isNaN_eq_false hs
  · exact IsPlainNumber.isNaN_eq_false ht

/-- Calls on well-formed values are safe. -/
theorem Judgement.accepts_isWellFormed (h : ∀ c : Call, c.IsSafe → J.Gives (note c) ()) :
    J.Accepts note Value.IsWellFormed where
  element hlist v hv := by
    cases hlist with
    | list nonempty each => exact each v hv
  reduce hv := by
    obtain ⟨s, hs, -⟩ := hv.exists_firstScalar
    exact h _ ⟨s, hs⟩
  compare hv hw hs ht :=
    h _ (isSafe_compare (hv.isPlain_firstScalar hs) (hw.isPlain_firstScalar ht))
  write hv hx := h _ (hv.isPlain_firstScalar hx).1

end Judged

/-! ## Notes that are ignored -/

section Ignored

variable {m : Type → Type} [Monad m]

/-- Nothing is done about a call. -/
def Call.ignore (_ : Call) : m Unit :=
  pure ()

variable [LawfulMonad m]

/-- Nothing is done but to return the result. -/
def Judgement.returns : Judgement m where
  Gives x a := x = Pure.pure a
  pure _ := rfl
  bind hx hf := by rw [hx, pure_bind, hf]

theorem Judgement.returns_accepts_ignore :
    returns.Accepts (m := m) Call.ignore fun _ => True where
  element _ _ _ := trivial
  reduce _ := rfl
  compare _ _ _ _ := rfl
  write _ _ := rfl

namespace Expr

/-- Where calls are ignored, an expression is evaluated and its value displayed, and nothing else is
done. -/
theorem shownM_ignore (e : Expr) :
    e.shownM (m := m) Call.ignore = pure (e.evaluate, e.evaluate.display) :=
  gives_shownM Judgement.returns_accepts_ignore fun _ _ => trivial

/-- If the parts of an expression have well-formed values, what is done about unsafe calls is never
done. -/
theorem shownM_of_isWellFormed {note : Call → m Unit}
    (hnote : ∀ c : Call, c.IsSafe → note c = pure ()) {e : Expr}
    (h : ∀ p, IsPart p e → p.evaluate.IsWellFormed) :
    e.shownM note = pure (e.evaluate, e.evaluate.display) :=
  have haccepts : Judgement.returns.Accepts note Value.IsWellFormed :=
    Judgement.accepts_isWellFormed hnote
  gives_shownM haccepts h

end Expr

end Ignored

/-! ## Notes that are recorded -/

/-- A result and the calls made on the way to it. -/
structure Traced (α : Type) where
  value : α
  calls : List Call

namespace Traced

instance : Monad Traced where
  pure a := ⟨a, []⟩
  bind t f := ⟨(f t.value).value, t.calls ++ (f t.value).calls⟩

def record (c : Call) : Traced Unit :=
  ⟨(), [c]⟩

variable {α β : Type}

/-- The computation has the result, and all its calls are safe. -/
structure Gives (t : Traced α) (a : α) : Prop where
  value_eq : t.value = a
  safe : ∀ c ∈ t.calls, c.IsSafe

theorem Gives.bind {t : Traced α} {f : α → Traced β} {a : α} {b : β} (ht : t.Gives a)
    (hf : (f a).Gives b) : (t >>= f).Gives b := by
  obtain ⟨rfl, hcalls⟩ := ht
  refine ⟨hf.value_eq, fun c hc => ?_⟩
  rcases List.mem_append.mp hc with hc | hc
  · exact hcalls c hc
  · exact hf.safe c hc

theorem Gives.record {c : Call} (hc : c.IsSafe) : (record c).Gives () :=
  ⟨rfl, fun _ h => List.mem_singleton.mp h ▸ hc⟩

/-- All calls are safe. -/
def safely : Judgement Traced where
  Gives := Gives
  pure _ := ⟨rfl, nofun⟩
  bind := Gives.bind

theorem gives_shownM_record {e : Expr} (h : ∀ p, Expr.IsPart p e → p.evaluate.IsWellFormed) :
    (e.shownM record).Gives (e.evaluate, e.evaluate.display) :=
  have haccepts : safely.Accepts record Value.IsWellFormed :=
    Judgement.accepts_isWellFormed fun _ hc => .record hc
  Expr.gives_shownM haccepts h

end Traced

end CellFormula
