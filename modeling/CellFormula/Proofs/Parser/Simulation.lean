import CellFormula.Proofs.Parser.Equations
import CellFormula.Proofs.Parser.Points

/-! # The parser goes from point to point

Whatever the parser builds, it takes the tokens that the points let it take, refuses the token that
the point refuses, and leaves the same items untaken. The items may have errors among them.
-/

namespace CellFormula

namespace Point

/-- Refuse a token with the given items behind it. Before an operand the token has been moved past
by then, so that the next item is taken, and an error there comes first. -/
def refusal (e : ParseError) : Point → List TokenItem → FormulaError × List TokenItem
  | beforeOperand _, .error e' :: rest => (.lex e', rest)
  | beforeOperand _, rest => (.parse e, rest.tail)
  | behindOperand _, rest => (.parse e, rest)

/-- Read items up to their end. A failure comes with the items that were not taken. -/
def read (depth : Nat) : Point → List TokenItem → Except (FormulaError × List TokenItem) Unit
  | behindOperand [], [] => .ok ()
  | _, [] => .error (.parse .unexpectedEnd, [])
  | _, .error e :: rest => .error (.lex e, rest)
  | point, .ok token :: rest =>
    match point.step depth token with
    | .ok next => next.read depth rest
    | .error e => .error (point.refusal e rest)

variable {depth : Nat} {point next : Point} {token : Token} {rest : List TokenItem}

@[simp] theorem read_lexError {e : LexError} :
    point.read depth (.error e :: rest) = .error (.lex e, rest) := by
  unfold read
  split <;> simp_all

theorem read_of_step_ok (h : point.step depth token = .ok next) :
    point.read depth (.ok token :: rest) = next.read depth rest := by
  rw [read, h]

theorem read_of_step_error {e : ParseError} (h : point.step depth token = .error e) :
    point.read depth (.ok token :: rest) = .error (point.refusal e rest) := by
  rw [read, h]

theorem read_nil_of_ne (h : point ≠ behindOperand []) :
    point.read depth [] = .error (.parse .unexpectedEnd, []) := by
  unfold read
  split <;> simp_all

end Point

namespace Parser

open Cursor Point

variable {α β : Type} {bound depth tier : Nat} {a b c : Point} {cursor : Cursor}

/-- From the cursor the parser takes reading from one point to the other, or fails as reading
does. Where it succeeds it stops before any operator of the tier. -/
structure FollowsAt (depth tier : Nat) (a b : Point) (p : Parser α) (cursor : Cursor) : Prop where
  ok : ∀ {x after}, p.run cursor = .ok x after →
    after.Settled ∧ after.Stops tier ∧ after.ahead.length ≤ cursor.ahead.length ∧
      a.read depth cursor.ahead = b.read depth after.ahead
  error : ∀ {e after}, p.run cursor = .error e after →
    a.read depth cursor.ahead = .error (e, after.pending)

namespace FollowsAt

variable {p q : Parser α} {f : α → Parser β}

theorem of_run_eq (h : FollowsAt depth tier a b q cursor) (hrun : p.run cursor = q.run cursor) :
    FollowsAt depth tier a b p cursor :=
  ⟨fun hok => h.ok (hrun ▸ hok), fun herror => h.error (hrun ▸ herror)⟩

theorem moves {x : α} {after : Cursor} (hrun : p.run cursor = .ok x after)
    (hsettled : after.Settled) (hstops : after.Stops tier)
    (hlength : after.ahead.length ≤ cursor.ahead.length)
    (hread : a.read depth cursor.ahead = b.read depth after.ahead) :
    FollowsAt depth tier a b p cursor := by
  constructor
  · intro x' after' h
    rw [hrun] at h
    cases h
    exact ⟨hsettled, hstops, hlength, hread⟩
  · intro e after' h
    simp [hrun] at h

theorem stay {x : α} (hrun : p.run cursor = .ok x cursor) (hsettled : cursor.Settled)
    (hstops : cursor.Stops tier) : FollowsAt depth tier a a p cursor :=
  moves hrun hsettled hstops (Nat.le_refl _) rfl

theorem fails {e : FormulaError} {after : Cursor} (hrun : p.run cursor = .error e after)
    (hread : a.read depth cursor.ahead = .error (e, after.pending)) :
    FollowsAt depth tier a b p cursor := by
  constructor
  · intro x' after h
    simp [hrun] at h
  · intro e after h
    rw [hrun] at h
    cases h
    exact hread

theorem bind {tier' : Nat} (h : FollowsAt depth tier a b p cursor)
    (hf : ∀ x after, p.run cursor = .ok x after → after.Settled → after.Stops tier →
      after.ahead.length ≤ cursor.ahead.length → FollowsAt depth tier' b c (f x) after) :
    FollowsAt depth tier' a c (p >>= f) cursor := by
  cases hp : p.run cursor with
  | error e after => exact fails (run_bind_of_error hp) (h.error hp)
  | ok x between =>
      obtain ⟨hsettled, hstops, hlength, hread⟩ := h.ok hp
      have hnext := hf x between hp hsettled hstops hlength
      constructor
      · intro y after hrun
        rw [run_bind_of_ok hp] at hrun
        obtain ⟨hsettled', hstops', hlength', hread'⟩ := hnext.ok hrun
        exact ⟨hsettled', hstops', Nat.le_trans hlength' hlength, hread.trans hread'⟩
      · intro e after hrun
        rw [run_bind_of_ok hp] at hrun
        exact hread.trans (hnext.error hrun)

/-- Giving another value in the end changes nothing. -/
theorem map {g : α → β} (h : FollowsAt depth tier a b p cursor) :
    FollowsAt depth tier a b (p >>= fun x => pure (g x)) cursor :=
  h.bind fun _ _ _ hsettled hstops _ => stay rfl hsettled hstops

end FollowsAt

/-! ## One token -/

/-- A token that the point takes is moved past. -/
theorem followsAt_advance {token : Token} (hcurrent : cursor.current = some token)
    (hstep : a.step depth token = .ok b) : FollowsAt depth 6 a b advance cursor := by
  have hread : a.read depth (.ok token :: cursor.pending) = b.read depth cursor.pending :=
    read_of_step_ok hstep
  rw [← ahead_of_current hcurrent] at hread
  rcases run_advance_cases cursor with ⟨e, rest, hpending, hrun⟩ | ⟨after, hrun, hsettled, hahead⟩
  · refine .fails hrun ?_
    rw [hread, hpending, read_lexError]
  · refine .moves hrun hsettled (stops_six after) ?_ ?_
    · rw [hahead, ahead_of_current hcurrent]
      exact Nat.le_succ _
    · rw [hread, hahead]

theorem refusal_ahead {openings : List Opening} {e : ParseError} (h : cursor.Settled) :
    (beforeOperand openings).refusal e cursor.ahead = (.parse e, cursor.pending) := by
  obtain ⟨current, pending⟩ := cursor
  cases current with
  | some token => rfl
  | none =>
      obtain rfl : pending = [] := h rfl
      rfl

/-- A token refused before an operand is moved past and then refused. -/
theorem followsAt_refusal {p : Parser α} {token : Token} {openings : List Opening} {e : ParseError}
    (hcurrent : cursor.current = some token)
    (hstep : (beforeOperand openings).step depth token = .error e)
    (hp : ∀ after, p.run after = .error (.parse e) after) :
    FollowsAt depth tier (beforeOperand openings) b (advance >>= fun _ => p) cursor := by
  have hread : (beforeOperand openings).read depth (.ok token :: cursor.pending) =
      .error ((beforeOperand openings).refusal e cursor.pending) := read_of_step_error hstep
  rw [← ahead_of_current hcurrent] at hread
  rcases run_advance_cases cursor with ⟨e', rest, hpending, hrun⟩ | ⟨after, hrun, hsettled, hahead⟩
  · refine .fails (run_bind_of_error hrun) ?_
    rw [hread, hpending]
    rfl
  · refine .fails ((run_bind_of_ok hrun).trans (hp after)) ?_
    rw [hread, ← hahead, refusal_ahead hsettled]

/-- A token refused behind an operand is not moved past. -/
theorem followsAt_refusal_behind {p : Parser α} {token : Token} {openings : List Opening}
    (hcurrent : cursor.current = some token)
    (hnext : (behindOperand openings).next? token.kind = none)
    (hp : p.run cursor = .error (.parse (.unexpectedToken token.text token.position)) cursor) :
    FollowsAt depth tier (behindOperand openings) b p cursor := by
  refine .fails hp ?_
  rw [ahead_of_current hcurrent, read_of_step_error (step_of_next?_eq_none hnext)]
  rfl

/-- The end comes too early for every point but one. -/
theorem followsAt_end {p : Parser α} (hsettled : cursor.Settled) (hcurrent : cursor.current = none)
    (ha : a ≠ behindOperand []) {after : Cursor} (hafter : after.pending = [])
    (hp : p.run cursor = .error (.parse .unexpectedEnd) after) :
    FollowsAt depth tier a b p cursor := by
  refine .fails hp ?_
  rw [hsettled.ahead_eq_nil hcurrent, read_nil_of_ne ha, hafter]

/-! ## Chains of operators -/

/-- The parser follows the points from every cursor with at most `bound` items ahead. -/
def Follows (bound depth tier : Nat) (a b : Point) (p : Parser α) : Prop :=
  ∀ ⦃cursor : Cursor⦄, cursor.Settled → cursor.ahead.length ≤ bound →
    FollowsAt depth tier a b p cursor

section Chains

variable {openings : List Opening} {p : Parser Expr}

/-- The rounds of a chain lead from behind one operand to behind the next, and do not run out
before the tokens do. -/
theorem followsAt_rounds (hdepth : openings.length ≤ depth)
    (hp : Follows bound depth (tier + 1) (beforeOperand openings) (behindOperand openings) p)
    {n : Nat} {left : Expr} {cursor : Cursor} (hsettled : cursor.Settled)
    (hstops : cursor.Stops (tier + 1)) (hn : cursor.ahead.length ≤ n)
    (hbound : cursor.ahead.length ≤ bound) :
    FollowsAt depth tier (behindOperand openings) (behindOperand openings)
      (rounds tier p n left) cursor := by
  induction n generalizing left cursor with
  | zero =>
      have hnil := List.length_eq_zero_iff.mp (Nat.le_zero.mp hn)
      refine .stay rfl hsettled ?_
      intro token op hcurrent
      simp [ahead_of_current hcurrent] at hnil
  | succ n ih =>
      cases hop : cursor.operator? tier with
      | none => exact .stay (run_rounds_of_none hop) hsettled (hstops.of_operator?_eq_none hop)
      | some op =>
          obtain ⟨-, token, hcurrent, hkind⟩ := operator?_eq_some_iff.mp hop
          have hstep : (behindOperand openings).step depth token = .ok (beforeOperand openings) :=
            step_of_length_le (by rw [hkind]; rfl) hdepth
          refine FollowsAt.of_run_eq ?_ (run_rounds_of_some hop)
          refine (followsAt_advance hcurrent hstep).bind ?_
          intro _ between hadvance hsettled _ _
          obtain ⟨-, -, hahead⟩ := run_advance_eq_ok hadvance
          rw [ahead_of_current hcurrent, List.length_cons] at hn hbound
          refine (hp hsettled (by rw [hahead]; omega)).bind ?_
          intro right after _ hsettled hstops hlength
          rw [hahead] at hlength
          exact ih hsettled hstops (by omega) (by omega)

theorem follows_chain (hdepth : openings.length ≤ depth)
    (hp : Follows bound depth (tier + 1) (beforeOperand openings) (behindOperand openings) p) :
    Follows bound depth tier (beforeOperand openings) (behindOperand openings)
      (chain bound p tier) := by
  intro cursor hsettled hbound
  refine (hp hsettled hbound).bind ?_
  intro left after _ hsettled hstops hlength
  exact followsAt_rounds hdepth hp hsettled hstops (by omega) (by omega)

theorem follows_tiers (hdepth : openings.length ≤ depth)
    (hp : Follows bound depth 6 (beforeOperand openings) (behindOperand openings) p) :
    Follows bound depth 1 (beforeOperand openings) (behindOperand openings) (tiers bound p) :=
  tiers_induction
    (motive := fun tier p =>
      Follows bound depth tier (beforeOperand openings) (behindOperand openings) p)
    hp fun _ _ _ => follows_chain hdepth

end Chains

/-! ## Groups and arrays -/

section Closing

variable {openings : List Opening} {p : Parser Expr}

theorem followsAt_expect (hdepth : openings.length ≤ depth) (hsettled : cursor.Settled)
    (hstops : cursor.Stops 1) :
    FollowsAt depth 6 (behindOperand (.group :: openings)) (behindOperand (closeSigns openings))
      (expect .rightParen) cursor := by
  cases hcurrent : cursor.current with
  | none =>
      exact followsAt_end hsettled hcurrent nofun (hsettled hcurrent) (run_expect_of_end hcurrent)
  | some token =>
      by_cases hkind : token.kind = .rightParen
      · have hstep : (behindOperand (.group :: openings)).step depth token =
            .ok (behindOperand (closeSigns openings)) :=
          step_of_length_le (by rw [hkind]; rfl)
            (Nat.le_trans (length_closeSigns_le openings) hdepth)
        exact (followsAt_advance hcurrent hstep).map.of_run_eq
          (run_expect_of_current hcurrent hkind)
      · refine followsAt_refusal_behind hcurrent ?_ (run_expect_of_ne hcurrent hkind)
        cases htoken : token.kind with
        | operator op => exact absurd htoken (hstops.kind_ne hcurrent op)
        | rightParen => exact absurd htoken hkind
        | _ => rfl

theorem follows_group (hdepth : openings.length < depth)
    (hp : Follows bound depth 6 (beforeOperand (.group :: openings))
      (behindOperand (.group :: openings)) p) :
    Follows bound depth 6 (beforeOperand (.group :: openings))
      (behindOperand (closeSigns openings)) (group bound p) := by
  intro cursor hsettled hbound
  refine (follows_tiers hdepth hp hsettled hbound).bind ?_
  intro e after _ hsettled hstops _
  exact (followsAt_expect (Nat.le_of_lt hdepth) hsettled hstops).map

/-- Behind an element either a comma leads to the next one or the brace closes the array. -/
theorem followsAt_elements (hdepth : openings.length < depth)
    (hp : Follows bound depth 1 (beforeOperand (.array :: openings))
      (behindOperand (.array :: openings)) p)
    {n : Nat} {cursor : Cursor} (hsettled : cursor.Settled) (hstops : cursor.Stops 1)
    (hn : cursor.ahead.length ≤ n) (hbound : cursor.ahead.length ≤ bound) :
    FollowsAt depth 6 (behindOperand (.array :: openings)) (behindOperand (closeSigns openings))
      (elements p n) cursor := by
  induction n generalizing cursor with
  | zero =>
      have hnil := List.length_eq_zero_iff.mp (Nat.le_zero.mp hn)
      cases hcurrent : cursor.current with
      | some token => simp [ahead_of_current hcurrent] at hnil
      | none =>
          exact followsAt_end hsettled hcurrent nofun (hsettled hcurrent)
            (run_elements_of_end hcurrent)
  | succ n ih =>
      cases hcurrent : cursor.current with
      | none =>
          exact followsAt_end hsettled hcurrent nofun (hsettled hcurrent)
            (run_elements_of_end hcurrent)
      | some token =>
          rw [ahead_of_current hcurrent, List.length_cons] at hn hbound
          by_cases hcomma : token.kind = .comma
          · have hstep : (behindOperand (.array :: openings)).step depth token =
                .ok (beforeOperand (.array :: openings)) :=
              step_of_length_le (by rw [hcomma]; rfl) hdepth
            refine FollowsAt.of_run_eq ?_ (run_elements_of_comma hcurrent hcomma)
            refine (followsAt_advance hcurrent hstep).bind ?_
            intro _ between hadvance hsettled _ _
            obtain ⟨-, -, hahead⟩ := run_advance_eq_ok hadvance
            refine (hp hsettled (by rw [hahead]; omega)).bind ?_
            intro e after _ hsettled hstops hlength
            rw [hahead] at hlength
            exact (ih hsettled hstops (by omega) (by omega)).map
          · by_cases hbrace : token.kind = .rightBrace
            · have hstep : (behindOperand (.array :: openings)).step depth token =
                  .ok (behindOperand (closeSigns openings)) :=
                step_of_length_le (by rw [hbrace]; rfl)
                  (Nat.le_trans (length_closeSigns_le openings) (Nat.le_of_lt hdepth))
              exact (followsAt_advance hcurrent hstep).map.of_run_eq
                (run_elements_of_rightBrace hcurrent hbrace)
            · refine followsAt_refusal_behind hcurrent ?_
                (run_elements_of_other hcurrent hcomma hbrace)
              cases htoken : token.kind with
              | operator op => exact absurd htoken (hstops.kind_ne hcurrent op)
              | comma => exact absurd htoken hcomma
              | rightBrace => exact absurd htoken hbrace
              | _ => rfl

theorem follows_array (hdepth : openings.length < depth)
    (hp : Follows bound depth 6 (beforeOperand (.array :: openings))
      (behindOperand (.array :: openings)) p) :
    Follows bound depth 6 (beforeOperand (.array :: openings))
      (behindOperand (closeSigns openings)) (array bound p) := by
  intro cursor hsettled hbound
  have htiers := follows_tiers hdepth hp
  refine (htiers hsettled hbound).bind ?_
  intro e after _ hsettled hstops hlength
  exact (followsAt_elements hdepth htiers hsettled hstops (by omega) (by omega)).map

end Closing

/-! ## Operands -/

section Operands

variable {openings : List Opening} {deeper : Option (Parser Expr)} {token : Token}

/-- How operands are read behind one more opening; there is no way once the depth is used up. -/
def FollowsDeeper (bound depth : Nat) (openings : List Opening) : Option (Parser Expr) → Prop
  | none => openings.length = depth
  | some inner => openings.length < depth ∧ ∀ opening,
    Follows bound depth 6 (beforeOperand (opening :: openings))
      (behindOperand (closeSigns (opening :: openings))) inner

/-- What an opening token starts is followed one level deeper, or refused for its depth. -/
theorem followsAt_nested {opening : Opening} {inside : Parser Expr → Parser Expr}
    (hdeeper : FollowsDeeper bound depth openings deeper) (hcurrent : cursor.current = some token)
    (hnext : (beforeOperand openings).next? token.kind =
      some (beforeOperand (opening :: openings)))
    (hinside : ∀ inner, openings.length < depth →
      Follows bound depth 6 (beforeOperand (opening :: openings))
        (behindOperand (closeSigns (opening :: openings))) inner →
      Follows bound depth 6 (beforeOperand (opening :: openings))
        (behindOperand (closeSigns openings)) (inside inner))
    (hbound : cursor.ahead.length ≤ bound) :
    FollowsAt depth 6 (beforeOperand openings) (behindOperand (closeSigns openings))
      (advance >>= fun _ => nested deeper token.position inside) cursor := by
  cases deeper with
  | none =>
      have hlt : depth < (opening :: openings).length :=
        Nat.lt_succ_of_le (Nat.le_of_eq hdeeper.symm)
      exact followsAt_refusal hcurrent (step_of_lt_length hnext hlt) fun _ => rfl
  | some inner =>
      obtain ⟨hlt, hinner⟩ := hdeeper
      refine (followsAt_advance hcurrent (step_of_length_le hnext hlt)).bind ?_
      intro _ after _ hsettled _ hlength
      exact hinside inner hlt (hinner opening) hsettled (Nat.le_trans hlength hbound)

theorem followsAt_primary (hdeeper : FollowsDeeper bound depth openings deeper)
    (hdepth : openings.length ≤ depth) (hsettled : cursor.Settled)
    (hsign : cursor.sign? = none) (hbound : cursor.ahead.length ≤ bound) :
    FollowsAt depth 6 (beforeOperand openings) (behindOperand (closeSigns openings))
      (primary bound deeper) cursor := by
  cases hcurrent : cursor.current with
  | none =>
      exact followsAt_end hsettled hcurrent nofun (hsettled hcurrent)
        (run_primary_of_end hsettled hcurrent)
  | some token =>
      refine FollowsAt.of_run_eq ?_ (run_primary_of_current hcurrent)
      unfold startedBy
      cases hkind : token.kind with
      | literal s =>
          have hstep : (beforeOperand openings).step depth token =
              .ok (behindOperand (closeSigns openings)) :=
            step_of_length_le (by rw [hkind]; rfl)
              (Nat.le_trans (length_closeSigns_le openings) hdepth)
          exact (followsAt_advance hcurrent hstep).map
      | leftParen =>
          exact followsAt_nested hdeeper hcurrent (by rw [hkind]; rfl)
            (fun _ hlt => follows_group hlt) hbound
      | leftBrace =>
          exact followsAt_nested hdeeper hcurrent (by rw [hkind]; rfl)
            (fun _ hlt => follows_array hlt) hbound
      | operator op =>
          have hnext : (beforeOperand openings).next? token.kind = none := by
            simp [hkind, next?, sign?_eq_none_of_sign? hsign hcurrent hkind]
          exact followsAt_refusal hcurrent (step_of_next?_eq_none hnext) fun _ => rfl
      | _ =>
          have hnext : (beforeOperand openings).next? token.kind = none := by rw [hkind]; rfl
          exact followsAt_refusal hcurrent (step_of_next?_eq_none hnext) fun _ => rfl

theorem follows_operandOver (hdeeper : FollowsDeeper bound depth openings deeper)
    (hdepth : openings.length ≤ depth) :
    Follows bound depth 6 (beforeOperand openings) (behindOperand (closeSigns openings))
      (operandOver bound deeper) := by
  intro cursor hsettled hbound
  cases hsign : cursor.sign? with
  | none =>
      exact (followsAt_primary hdeeper hdepth hsettled hsign hbound).of_run_eq
        (run_operandOver_of_none hsign)
  | some signed =>
      obtain ⟨sign, position⟩ := signed
      obtain ⟨token, op, hcurrent, hkind, hop, rfl⟩ := sign?_eq_some_iff.mp hsign
      have hnext : (beforeOperand openings).next? token.kind =
          some (beforeOperand (.sign :: openings)) := by
        simp [hkind, next?, hop]
      refine FollowsAt.of_run_eq ?_ (run_operandOver_of_sign hsign)
      refine followsAt_nested hdeeper hcurrent hnext ?_ hbound
      intro inner _ hinner after hsettled hbound
      exact (hinner hsettled hbound).map

theorem follows_operand {levels : Nat} (hdepth : openings.length + levels = depth) :
    Follows bound depth 6 (beforeOperand openings) (behindOperand (closeSigns openings))
      (operand bound levels) := by
  induction levels generalizing openings with
  | zero => exact follows_operandOver hdepth (Nat.le_of_eq hdepth)
  | succ levels ih =>
      refine follows_operandOver ⟨by omega, ?_⟩ (by omega)
      intro opening
      exact ih (by rw [List.length_cons]; omega)

end Operands

/-! ## Whole formulas -/

/-- The first step moves past nothing. -/
theorem followsAt_first {items : List TokenItem} :
    FollowsAt depth 6 a a advance ⟨none, items⟩ := by
  rcases run_advance_cases ⟨none, items⟩ with
    ⟨e, rest, hitems, hrun⟩ | ⟨after, hrun, hsettled, hahead⟩
  · obtain rfl : items = .error e :: rest := hitems
    exact .fails hrun read_lexError
  · refine .moves hrun hsettled (stops_six after) ?_ ?_
    · exact Nat.le_of_eq (by rw [hahead, ahead_mk_none])
    · rw [hahead, ahead_mk_none]

/-- A formula leads from before an operand to behind one, with nothing open. -/
theorem followsAt_formula {items : List TokenItem} (hbound : items.length ≤ bound) :
    FollowsAt depth 1 (beforeOperand []) (behindOperand []) (formula bound depth)
      ⟨none, items⟩ := by
  refine followsAt_first.bind ?_
  intro _ start _ hsettled _ hlength
  have hoperand : Follows bound depth 6 (beforeOperand []) (behindOperand [])
      (operand bound depth) := follows_operand (Nat.zero_add depth)
  refine (follows_tiers (Nat.zero_le depth) hoperand hsettled
    (Nat.le_trans hlength hbound)).bind ?_
  intro e after _ hsettled hstops _
  cases hcurrent : after.current with
  | none =>
      refine .stay (x := e) ?_ hsettled hstops
      rw [run_get_bind, hcurrent]
      rfl
  | some token =>
      refine followsAt_refusal_behind hcurrent ?_ ?_
      · cases htoken : token.kind with
        | operator op => exact absurd htoken (hstops.kind_ne hcurrent op)
        | _ => rfl
      · rw [run_get_bind, hcurrent]
        rfl

end Parser

end CellFormula
