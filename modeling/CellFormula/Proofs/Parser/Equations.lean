import CellFormula.Expr.Parser

/-! # Computation rules for the parser

A cursor stands before the token looked at and the items not taken yet. Every rule below says what
one parser does there, so that later proofs never look into a `do` block.
-/

namespace CellFormula

theorem Operator.one_le_tier (op : Operator) : 1 ≤ op.tier := by
  unfold tier
  split <;> decide

theorem Operator.tier_le_five (op : Operator) : op.tier ≤ 5 := by
  unfold tier
  split <;> decide

namespace Cursor

/-- The items that have not been moved past. -/
def ahead (cursor : Cursor) : List TokenItem :=
  cursor.current.toList.map .ok ++ cursor.pending

/-- No token is looked at only where there is none left, as is so once the cursor has moved. -/
def Settled (cursor : Cursor) : Prop :=
  cursor.current = none → cursor.pending = []

/-- No operator of the tier or of a tighter one is looked at. -/
def Stops (tier : Nat) (cursor : Cursor) : Prop :=
  ∀ token op, cursor.current = some token → token.kind = .operator op → op.tier < tier

/-- The cursor before a sequence of tokens. -/
def facing : List Token → Cursor
  | [] => ⟨none, []⟩
  | token :: rest => ⟨some token, rest.map .ok⟩

theorem ahead_of_current {cursor : Cursor} {token : Token} (h : cursor.current = some token) :
    cursor.ahead = .ok token :: cursor.pending := by
  simp [ahead, h]

theorem ahead_of_current_eq_none {cursor : Cursor} (h : cursor.current = none) :
    cursor.ahead = cursor.pending := by
  simp [ahead, h]

theorem Settled.ahead_eq_nil {cursor : Cursor} (hs : cursor.Settled)
    (h : cursor.current = none) : cursor.ahead = [] := by
  rw [ahead_of_current_eq_none h, hs h]

@[simp] theorem ahead_mk_none (items : List TokenItem) : ahead ⟨none, items⟩ = items := rfl

theorem operator?_eq_some_iff {cursor : Cursor} {tier : Nat} {op : Operator} :
    cursor.operator? tier = some op ↔
      op.tier = tier ∧ ∃ token, cursor.current = some token ∧ token.kind = .operator op := by
  obtain ⟨current, pending⟩ := cursor
  cases current with
  | none => simp [operator?]
  | some token =>
      obtain ⟨kind, text, position⟩ := token
      cases kind with
      | operator op' =>
          constructor
          · intro h
            obtain ⟨htier, hop⟩ := Option.ite_none_right_eq_some.mp h
            cases hop
            exact ⟨htier, _, rfl, rfl⟩
          · rintro ⟨htier, token, htoken, hop⟩
            cases htoken
            cases hop
            exact if_pos htier
      | _ => simp [operator?]

theorem Stops.mono {cursor : Cursor} {tier tier' : Nat} (hs : cursor.Stops tier)
    (h : tier ≤ tier') : cursor.Stops tier' :=
  fun token op hcurrent hkind => Nat.lt_of_lt_of_le (hs token op hcurrent hkind) h

theorem Stops.operator?_eq_none {cursor : Cursor} {tier : Nat} (hs : cursor.Stops tier) :
    cursor.operator? tier = none := by
  cases hop : cursor.operator? tier with
  | none => rfl
  | some op =>
      obtain ⟨htier, token, hcurrent, hkind⟩ := operator?_eq_some_iff.mp hop
      exact absurd (hs token op hcurrent hkind) (Nat.not_lt.mpr (Nat.le_of_eq htier.symm))

theorem Stops.of_operator?_eq_none {cursor : Cursor} {tier : Nat} (hs : cursor.Stops (tier + 1))
    (h : cursor.operator? tier = none) : cursor.Stops tier := by
  intro token op hcurrent hkind
  have hle := Nat.le_of_lt_succ (hs token op hcurrent hkind)
  rcases Nat.lt_or_eq_of_le hle with hlt | heq
  · exact hlt
  · rw [operator?_eq_some_iff.mpr ⟨heq, token, hcurrent, hkind⟩] at h
    cases h

theorem stops_six (cursor : Cursor) : cursor.Stops 6 :=
  fun _ op _ _ => Nat.lt_succ_of_le op.tier_le_five

theorem Stops.kind_ne {cursor : Cursor} (hs : cursor.Stops 1) {token : Token}
    (h : cursor.current = some token) (op : Operator) : token.kind ≠ .operator op :=
  fun hkind => Nat.not_le.mpr (hs token op h hkind) op.one_le_tier

theorem stops_of_kind_ne {cursor : Cursor} {tier : Nat} {token : Token}
    (h : cursor.current = some token) (hkind : ∀ op, token.kind ≠ .operator op) :
    cursor.Stops tier := by
  intro token' op hcurrent hop
  rw [h] at hcurrent
  cases hcurrent
  exact absurd hop (hkind op)

theorem sign?_eq_some_iff {cursor : Cursor} {sign : Sign} {position : Nat} :
    cursor.sign? = some (sign, position) ↔
      ∃ token op, cursor.current = some token ∧ token.kind = .operator op ∧
        op.sign? = some sign ∧ token.position = position := by
  obtain ⟨current, pending⟩ := cursor
  cases current with
  | none => simp [sign?]
  | some token =>
      obtain ⟨kind, text, place⟩ := token
      cases kind with
      | operator op =>
          constructor
          · intro h
            obtain ⟨found, hfound, hpair⟩ := Option.map_eq_some_iff.mp h
            cases hpair
            exact ⟨_, op, rfl, rfl, hfound, rfl⟩
          · rintro ⟨token, op', htoken, hop, hsign, hposition⟩
            cases htoken
            cases hop
            exact Option.map_eq_some_iff.mpr ⟨sign, hsign, by rw [← hposition]⟩
      | _ => simp [sign?]

theorem sign?_eq_none_of_sign? {cursor : Cursor} {token : Token} {op : Operator}
    (hsign : cursor.sign? = none) (h : cursor.current = some token)
    (hkind : token.kind = .operator op) : op.sign? = none := by
  cases hop : op.sign? with
  | none => rfl
  | some sign =>
      rw [sign?_eq_some_iff.mpr ⟨token, op, h, hkind, hop, rfl⟩] at hsign
      cases hsign

theorem sign?_eq_none_of_kind_ne {cursor : Cursor} {token : Token}
    (h : cursor.current = some token) (hkind : ∀ op, token.kind ≠ .operator op) :
    cursor.sign? = none := by
  cases hsign : cursor.sign? with
  | none => rfl
  | some signed =>
      obtain ⟨token', op, hcurrent, hop, -⟩ := sign?_eq_some_iff.mp hsign
      rw [h] at hcurrent
      cases hcurrent
      exact absurd hop (hkind op)

end Cursor

namespace Parser

variable {α β : Type} {p : Parser α} {f : α → Parser β} {cursor : Cursor}

/-! ## Sequencing -/

theorem run_bind_eq_ok_iff {b : β} {after : Cursor} :
    (p >>= f).run cursor = .ok b after ↔
      ∃ a between, p.run cursor = .ok a between ∧ (f a).run between = .ok b after := by
  rw [EStateM.run_bind]
  constructor
  · intro h
    cases hp : p.run cursor with
    | ok a between => exact ⟨a, between, rfl, by rwa [hp] at h⟩
    | error e between => simp [hp] at h
  · rintro ⟨a, between, hp, hf⟩
    rw [hp]
    exact hf

theorem run_bind_of_ok {a : α} {between : Cursor} (h : p.run cursor = .ok a between) :
    (p >>= f).run cursor = (f a).run between := by
  rw [EStateM.run_bind, h]

theorem run_bind_of_error {e : FormulaError} {between : Cursor}
    (h : p.run cursor = .error e between) : (p >>= f).run cursor = .error e between := by
  rw [EStateM.run_bind, h]

@[simp] theorem run_get_bind (f : Cursor → Parser β) (cursor : Cursor) :
    ((get : Parser Cursor) >>= f).run cursor = (f cursor).run cursor := rfl

@[simp] theorem run_fail (e : ParseError) (cursor : Cursor) :
    (fail e : Parser α).run cursor = .error (.parse e) cursor := rfl

@[simp] theorem run_refuse_some (token : Token) (cursor : Cursor) :
    (refuse (some token) : Parser α).run cursor =
      .error (.parse (.unexpectedToken token.text token.position)) cursor := rfl

@[simp] theorem run_refuse_none (cursor : Cursor) :
    (refuse none : Parser α).run cursor = .error (.parse .unexpectedEnd) cursor := rfl

/-! ## One step forward -/

/-- A step gives the token looked at and stands before what was pending, unless the next item is
an error. -/
theorem run_advance_cases (cursor : Cursor) :
    (∃ e rest, cursor.pending = .error e :: rest ∧
      advance.run cursor = .error (.lex e) ⟨cursor.current, rest⟩) ∨
    (∃ after : Cursor, advance.run cursor = .ok cursor.current after ∧ after.Settled ∧
      after.ahead = cursor.pending) := by
  obtain ⟨current, pending⟩ := cursor
  cases pending with
  | nil => exact .inr ⟨⟨none, []⟩, rfl, fun _ => rfl, rfl⟩
  | cons item rest =>
      cases item with
      | error e => exact .inl ⟨e, rest, rfl, rfl⟩
      | ok token => exact .inr ⟨⟨some token, rest⟩, rfl, nofun, rfl⟩

theorem run_advance_eq_ok {token? : Option Token} {after : Cursor}
    (h : advance.run cursor = .ok token? after) :
    token? = cursor.current ∧ after.Settled ∧ after.ahead = cursor.pending := by
  rcases run_advance_cases cursor with ⟨e, rest, -, hrun⟩ | ⟨next, hrun, hsettled, hahead⟩
  · simp [hrun] at h
  · rw [hrun] at h
    cases h
    exact ⟨rfl, hsettled, hahead⟩

@[simp] theorem run_advance_facing (token : Token) (ts : List Token) :
    advance.run (.facing (token :: ts)) = .ok (some token) (.facing ts) := by
  cases ts <;> rfl

@[simp] theorem run_advance_initial (ts : List Token) :
    advance.run ⟨none, ts.map .ok⟩ = .ok none (.facing ts) := by
  cases ts <;> rfl

theorem run_expect_of_current {kind : TokenKind} {token : Token}
    (h : cursor.current = some token) (hkind : token.kind = kind) :
    (expect kind).run cursor = (advance >>= fun _ => pure ()).run cursor := by
  rw [expect, run_get_bind, h]
  simp only [if_pos hkind]

theorem run_expect_of_ne {kind : TokenKind} {token : Token}
    (h : cursor.current = some token) (hkind : token.kind ≠ kind) :
    (expect kind).run cursor =
      .error (.parse (.unexpectedToken token.text token.position)) cursor := by
  rw [expect, run_get_bind, h]
  simp only [if_neg hkind, run_refuse_some]

theorem run_expect_of_end {kind : TokenKind} (h : cursor.current = none) :
    (expect kind).run cursor = .error (.parse .unexpectedEnd) cursor := by
  rw [expect, run_get_bind, h]
  rfl

/-! ## Chains of operators -/

section Chains

variable {operand : Parser Expr} {bound tier n : Nat} {left : Expr}

@[simp] theorem run_rounds_zero :
    (rounds tier operand 0 left).run cursor = .ok left cursor := rfl

theorem run_rounds_of_none (h : cursor.operator? tier = none) :
    (rounds tier operand n left).run cursor = .ok left cursor := by
  cases n with
  | zero => rfl
  | succ n =>
      rw [rounds, run_get_bind, h]
      rfl

theorem run_rounds_of_some {op : Operator} (h : cursor.operator? tier = some op) :
    (rounds tier operand (n + 1) left).run cursor =
      (advance >>= fun _ => operand >>= fun right =>
        rounds tier operand n (.binary op left right)).run cursor := by
  rw [rounds, run_get_bind, h]

/-- A property of operand parsers, indexed by the tier from which on they take operators, that
one more chain carries to the next looser tier holds of all tiers together. -/
theorem tiers_induction {motive : Nat → Parser Expr → Prop} (hoperand : motive 6 operand)
    (hchain : ∀ tier < 6, ∀ p, motive (tier + 1) p → motive tier (chain bound p tier)) :
    motive 1 (tiers bound operand) := by
  have h5 := hchain 5 (by decide) operand hoperand
  have h4 := hchain 4 (by decide) _ h5
  have h3 := hchain 3 (by decide) _ h4
  have h2 := hchain 2 (by decide) _ h3
  exact hchain 1 (by decide) _ h2

end Chains

/-! ## Elements, operands and formulas -/

section Operands

variable {element : Parser Expr} {deeper : Option (Parser Expr)} {bound n : Nat} {token : Token}

theorem run_elements_of_comma (h : cursor.current = some token) (hkind : token.kind = .comma) :
    (elements element (n + 1)).run cursor =
      (advance >>= fun _ => element >>= fun e => elements element n >>= fun rest =>
        pure (e :: rest)).run cursor := by
  obtain ⟨kind, text, position⟩ := token
  cases hkind
  rw [elements, run_get_bind, h]

theorem run_elements_of_rightBrace (h : cursor.current = some token)
    (hkind : token.kind = .rightBrace) :
    (elements element (n + 1)).run cursor = (advance >>= fun _ => pure []).run cursor := by
  obtain ⟨kind, text, position⟩ := token
  cases hkind
  rw [elements, run_get_bind, h]

theorem run_elements_of_other (h : cursor.current = some token) (hcomma : token.kind ≠ .comma)
    (hbrace : token.kind ≠ .rightBrace) :
    (elements element n).run cursor =
      .error (.parse (.unexpectedToken token.text token.position)) cursor := by
  cases n with
  | zero =>
      rw [elements, run_get_bind, h]
      rfl
  | succ n =>
      obtain ⟨kind, text, position⟩ := token
      rw [elements, run_get_bind, h]
      cases kind <;> first | rfl | contradiction

theorem run_elements_of_end (h : cursor.current = none) :
    (elements element n).run cursor = .error (.parse .unexpectedEnd) cursor := by
  cases n with
  | zero =>
      rw [elements, run_get_bind, h]
      rfl
  | succ n =>
      rw [elements, run_get_bind, h]
      rfl

theorem run_primary_of_advance {after : Cursor} (h : advance.run cursor = .ok (some token) after) :
    (primary bound deeper).run cursor = (startedBy bound deeper token).run after := by
  rw [primary, run_bind_of_ok h]

theorem run_primary_of_current (h : cursor.current = some token) :
    (primary bound deeper).run cursor =
      (advance >>= fun _ => startedBy bound deeper token).run cursor := by
  rcases run_advance_cases cursor with ⟨e, rest, -, hrun⟩ | ⟨after, hrun, -, -⟩
  · rw [primary, run_bind_of_error hrun, run_bind_of_error hrun]
  · rw [h] at hrun
    rw [run_primary_of_advance hrun, run_bind_of_ok hrun]

theorem run_primary_of_end (hsettled : cursor.Settled) (h : cursor.current = none) :
    (primary bound deeper).run cursor = .error (.parse .unexpectedEnd) cursor := by
  obtain ⟨current, pending⟩ := cursor
  obtain rfl : current = none := h
  obtain rfl : pending = [] := hsettled rfl
  rfl

theorem run_operandOver_of_sign {sign : Sign} {position : Nat}
    (h : cursor.sign? = some (sign, position)) :
    (operandOver bound deeper).run cursor =
      (advance >>= fun _ => nested deeper position (signed sign)).run cursor := by
  rw [operandOver, run_get_bind, h]

theorem run_operandOver_of_none (h : cursor.sign? = none) :
    (operandOver bound deeper).run cursor = (primary bound deeper).run cursor := by
  rw [operandOver, run_get_bind, h]

end Operands

end Parser

end CellFormula
