import CellFormula.Expr.Parser

/-! # The points at which a formula can be broken off

Reading token by token needs no tree: it is enough to know whether an operand has to come next and
what is still open. Every point can be completed to a whole formula, and a token that a point
refuses is refused whatever follows it.
-/

namespace CellFormula

/-- What has been started and not been finished. -/
inductive Opening where
  | sign
  | group
  | array
deriving DecidableEq, Repr

/-- A place between two tokens, with what is open there, the innermost first. -/
inductive Point where
  | beforeOperand (openings : List Opening)
  | behindOperand (openings : List Opening)
deriving DecidableEq, Repr

namespace Point

/-- A finished operand finishes the signs in front of it. -/
def closeSigns : List Opening → List Opening
  | .sign :: openings => closeSigns openings
  | openings => openings

def openings : Point → List Opening
  | beforeOperand openings => openings
  | behindOperand openings => openings

/-- The point behind a token, if one of the given kind can come next. -/
def next? : Point → TokenKind → Option Point
  | beforeOperand openings, .literal _ => some (behindOperand (closeSigns openings))
  | beforeOperand openings, .operator op =>
    op.sign?.map fun _ => beforeOperand (.sign :: openings)
  | beforeOperand openings, .leftParen => some (beforeOperand (.group :: openings))
  | beforeOperand openings, .leftBrace => some (beforeOperand (.array :: openings))
  | behindOperand openings, .operator _ => some (beforeOperand openings)
  | behindOperand (.group :: openings), .rightParen => some (behindOperand (closeSigns openings))
  | behindOperand (.array :: openings), .comma => some (beforeOperand (.array :: openings))
  | behindOperand (.array :: openings), .rightBrace => some (behindOperand (closeSigns openings))
  | _, _ => none

/-- Take a token, with at most `depth` openings inside one another. -/
def step (depth : Nat) (point : Point) (token : Token) : Except ParseError Point :=
  match point.next? token.kind with
  | none => .error (.unexpectedToken token.text token.position)
  | some next =>
    if next.openings.length ≤ depth then .ok next else .error (.nestingTooDeep token.position)

/-- Take tokens one after the other. -/
def walk (depth : Nat) (point : Point) (ts : List Token) : Except ParseError Point :=
  ts.foldlM (step depth) point

/-! ## Steps and walks -/

variable {depth depth' : Nat} {point next last : Point} {token : Token} {ts us : List Token}

theorem step_of_next?_eq_none (h : point.next? token.kind = none) :
    point.step depth token = .error (.unexpectedToken token.text token.position) := by
  rw [step, h]

theorem step_of_length_le (h : point.next? token.kind = some next)
    (hdepth : next.openings.length ≤ depth) : point.step depth token = .ok next := by
  rw [step, h]
  exact if_pos hdepth

theorem step_of_lt_length (h : point.next? token.kind = some next)
    (hdepth : depth < next.openings.length) :
    point.step depth token = .error (.nestingTooDeep token.position) := by
  rw [step, h]
  exact if_neg (Nat.not_le.mpr hdepth)

theorem step_eq_ok_iff :
    point.step depth token = .ok next ↔
      point.next? token.kind = some next ∧ next.openings.length ≤ depth := by
  constructor
  · intro h
    cases hnext : point.next? token.kind with
    | none => simp [step_of_next?_eq_none hnext] at h
    | some q =>
        by_cases hdepth : q.openings.length ≤ depth
        · rw [step_of_length_le hnext hdepth] at h
          cases h
          exact ⟨rfl, hdepth⟩
        · simp [step_of_lt_length hnext (Nat.not_le.mp hdepth)] at h
  · rintro ⟨hnext, hdepth⟩
    exact step_of_length_le hnext hdepth

theorem walk_cons_of_ok (h : point.step depth token = .ok next) :
    point.walk depth (token :: ts) = next.walk depth ts := by
  rw [walk, List.foldlM_cons, h]
  rfl

theorem walk_cons_of_error {e : ParseError} (h : point.step depth token = .error e) :
    point.walk depth (token :: ts) = .error e := by
  rw [walk, List.foldlM_cons, h]
  rfl

theorem walk_append_of_ok (h : point.walk depth ts = .ok next) :
    point.walk depth (ts ++ us) = next.walk depth us := by
  rw [walk] at h
  rw [walk, List.foldlM_append, h]
  rfl

theorem walk_append_of_error {e : ParseError} (h : point.walk depth ts = .error e) :
    point.walk depth (ts ++ us) = .error e := by
  rw [walk] at h
  rw [walk, List.foldlM_append, h]
  rfl

theorem walk_append_eq_ok (h : point.walk depth (ts ++ us) = .ok last) :
    ∃ next, point.walk depth ts = .ok next ∧ next.walk depth us = .ok last := by
  cases hts : point.walk depth ts with
  | ok next => exact ⟨next, rfl, by rwa [walk_append_of_ok hts] at h⟩
  | error e => simp [walk_append_of_error hts] at h

/-- A walk that fails gets as far as the token that is refused. -/
theorem walk_eq_error {e : ParseError} (h : point.walk depth ts = .error e) :
    ∃ pre token post next, ts = pre ++ token :: post ∧ point.walk depth pre = .ok next ∧
      next.step depth token = .error e := by
  induction ts generalizing point with
  | nil => cases h
  | cons token ts ih =>
      cases hstep : point.step depth token with
      | error e' =>
          rw [walk_cons_of_error hstep] at h
          cases h
          exact ⟨[], token, ts, point, rfl, rfl, hstep⟩
      | ok next =>
          rw [walk_cons_of_ok hstep] at h
          obtain ⟨pre, refused, post, q, rfl, hwalk, herror⟩ := ih h
          refine ⟨token :: pre, refused, post, q, rfl, ?_, herror⟩
          rw [walk_cons_of_ok hstep, hwalk]

theorem walk_mono (hdepth : depth ≤ depth') (h : point.walk depth ts = .ok last) :
    point.walk depth' ts = .ok last := by
  induction ts generalizing point with
  | nil => exact h
  | cons token ts ih =>
      cases hstep : point.step depth token with
      | error e => simp [walk_cons_of_error hstep] at h
      | ok next =>
          obtain ⟨hnext, hlength⟩ := step_eq_ok_iff.mp hstep
          have hstep' := step_of_length_le hnext (Nat.le_trans hlength hdepth)
          rw [walk_cons_of_ok hstep] at h
          rw [walk_cons_of_ok hstep', ih h]

/-- Where a walk ends does not depend on the depth allowed. -/
theorem walk_unique (h : point.walk depth ts = .ok next) (h' : point.walk depth' ts = .ok last) :
    next = last := by
  have hmax := walk_mono (Nat.le_max_left depth depth') h
  rw [walk_mono (Nat.le_max_right depth depth') h'] at hmax
  cases hmax
  rfl

theorem length_openings_le_of_walk (hpoint : point.openings.length ≤ depth)
    (h : point.walk depth ts = .ok last) : last.openings.length ≤ depth := by
  induction ts generalizing point with
  | nil =>
      cases h
      exact hpoint
  | cons token ts ih =>
      cases hstep : point.step depth token with
      | error e => simp [walk_cons_of_error hstep] at h
      | ok next =>
          rw [walk_cons_of_ok hstep] at h
          exact ih (step_eq_ok_iff.mp hstep).2 h

/-! ## Every point can be completed -/

/-- What closes the openings, from the innermost outwards. -/
def closers : List Opening → List TokenKind
  | [] => []
  | .sign :: openings => closers openings
  | .group :: openings => .rightParen :: closers openings
  | .array :: openings => .rightBrace :: closers openings

/-- An operand that is missing, and all that closes the openings. -/
def completion : Point → List TokenKind
  | beforeOperand openings => .literal (.boolean true) :: closers openings
  | behindOperand openings => .operator .concat :: .literal (.boolean true) :: closers openings

theorem completion_ne_nil (point : Point) : point.completion ≠ [] := by
  cases point <;> exact List.cons_ne_nil _ _

theorem length_closeSigns_le (openings : List Opening) :
    (closeSigns openings).length ≤ openings.length := by
  induction openings with
  | nil => exact Nat.le_refl 0
  | cons opening openings ih =>
      cases opening with
      | sign => exact Nat.le_succ_of_le ih
      | _ => exact Nat.le_refl _

theorem walk_closers {openings : List Opening} (h : openings.length ≤ depth) :
    (behindOperand (closeSigns openings)).walk depth
      ((closers openings).map fun kind => ⟨kind, "", 0⟩) = .ok (behindOperand []) := by
  induction openings with
  | nil => rfl
  | cons opening openings ih =>
      rw [List.length_cons] at h
      have hinner := ih (by omega)
      have hclosed : (closeSigns openings).length ≤ depth :=
        Nat.le_trans (length_closeSigns_le openings) (by omega)
      cases opening with
      | sign => exact hinner
      | group => exact (walk_cons_of_ok (step_of_length_le rfl hclosed)).trans hinner
      | array => exact (walk_cons_of_ok (step_of_length_le rfl hclosed)).trans hinner

theorem walk_completion (h : point.openings.length ≤ depth) :
    point.walk depth (point.completion.map fun kind => ⟨kind, "", 0⟩) = .ok (behindOperand []) := by
  have hoperand : ∀ openings : List Opening, openings.length ≤ depth →
      (beforeOperand openings).walk depth
        ((completion (beforeOperand openings)).map fun kind => ⟨kind, "", 0⟩) =
          .ok (behindOperand []) := by
    intro openings hle
    have hclosed := length_closeSigns_le openings
    have hstep : (beforeOperand openings).step depth ⟨.literal (.boolean true), "", 0⟩ =
        .ok (behindOperand (closeSigns openings)) :=
      step_of_length_le rfl (Nat.le_trans hclosed hle)
    exact (walk_cons_of_ok hstep).trans (walk_closers hle)
  cases point with
  | beforeOperand openings => exact hoperand openings h
  | behindOperand openings =>
      have hstep : (behindOperand openings).step depth ⟨.operator .concat, "", 0⟩ =
          .ok (beforeOperand openings) := step_of_length_le rfl h
      exact (walk_cons_of_ok hstep).trans (hoperand openings h)

end Point

end CellFormula
