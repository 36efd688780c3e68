import CellFormula.Proofs.Parser.Completeness
import CellFormula.Proofs.Parser.Laziness

/-! # Positions in parse errors

A parse that fails blames one of the items it was given, and so every position in its error is the
position of an item. Items that stand further to the right are parsed alike, and their errors are
reported further to the right.
-/

namespace CellFormula

/-! ## Positions moved to the right -/

def Token.shift (n : Nat) (token : Token) : Token :=
  { token with position := token.position + n }

def LexError.shift (n : Nat) (e : LexError) : LexError :=
  { e with position := e.position + n }

def ParseError.shift (n : Nat) : ParseError → ParseError
  | unexpectedToken found position => unexpectedToken found (position + n)
  | unexpectedEnd => unexpectedEnd
  | nestingTooDeep position => nestingTooDeep (position + n)

def FormulaError.shift (n : Nat) : FormulaError → FormulaError
  | lex e => lex (e.shift n)
  | parse e => parse (e.shift n)

/-- An item with its position `n` bytes to the right. Nothing else about it changes. -/
def TokenItem.shift (n : Nat) : TokenItem → TokenItem
  | .ok token => .ok (token.shift n)
  | .error e => .error (e.shift n)

/-! ## What a failed parse blames -/

/-- Whether a token of the kind starts something that is nested in what stands around it. -/
def TokenKind.opens : TokenKind → Bool
  | leftParen => true
  | leftBrace => true
  | operator op => op.sign?.isSome
  | _ => false

/-- The error is one of the items, names one of the tokens among them, or blames the end. Only a
token that opens something is nested too deeply. -/
inductive Blames (items : List TokenItem) : FormulaError → Prop where
  | item {e : LexError} (mem : .error e ∈ items) : Blames items (.lex e)
  | token {token : Token} (mem : .ok token ∈ items) :
      Blames items (.parse (.unexpectedToken token.text token.position))
  | depth {token : Token} (mem : .ok token ∈ items) (opens : token.kind.opens = true) :
      Blames items (.parse (.nestingTooDeep token.position))
  | ending : Blames items (.parse .unexpectedEnd)

theorem Blames.cons {items : List TokenItem} {e : FormulaError} (h : Blames items e)
    (item : TokenItem) : Blames (item :: items) e := by
  cases h with
  | item mem => exact .item (List.mem_cons_of_mem _ mem)
  | token mem => exact .token (List.mem_cons_of_mem _ mem)
  | depth mem opens => exact .depth (List.mem_cons_of_mem _ mem) opens
  | ending => exact .ending

namespace Point

variable {depth : Nat} {point next : Point} {token : Token} {items rest : List TokenItem}

/-- A token behind which more is open than before it opens something. -/
theorem opens_of_next? {kind : TokenKind} (h : point.next? kind = some next)
    (hlt : point.openings.length < next.openings.length) : kind.opens = true := by
  unfold next? at h
  split at h
  · cases h
    exact absurd hlt (Nat.not_lt.mpr (length_closeSigns_le _))
  · obtain ⟨sign, hsign, -⟩ := Option.map_eq_some_iff.mp h
    exact Option.isSome_of_mem hsign
  · rfl
  · rfl
  · cases h
    exact absurd hlt (Nat.lt_irrefl _)
  · cases h
    exact absurd hlt (Nat.not_lt.mpr (Nat.le_succ_of_le (length_closeSigns_le _)))
  · cases h
    exact absurd hlt (Nat.lt_irrefl _)
  · cases h
    exact absurd hlt (Nat.not_lt.mpr (Nat.le_succ_of_le (length_closeSigns_le _)))
  · cases h

theorem blames_of_step {e : ParseError} (hpoint : point.openings.length ≤ depth)
    (h : point.step depth token = .error e) : Blames (.ok token :: rest) (.parse e) := by
  cases hnext : point.next? token.kind with
  | none =>
      rw [step_of_next?_eq_none hnext] at h
      cases h
      exact .token List.mem_cons_self
  | some next =>
      by_cases hdepth : next.openings.length ≤ depth
      · rw [step_of_length_le hnext hdepth] at h
        cases h
      · rw [step_of_lt_length hnext (Nat.not_le.mp hdepth)] at h
        cases h
        exact .depth List.mem_cons_self (opens_of_next? hnext (by omega))

theorem blames_of_refusal {e : ParseError} (h : Blames (.ok token :: rest) (.parse e))
    (point : Point) : Blames (.ok token :: rest) (point.refusal e rest).1 := by
  unfold refusal
  split
  · exact .item (by simp)
  · exact h
  · exact h

/-- Reading takes tokens until it fails at one of them, at an error among the items, or at the
end. -/
theorem blames_of_read {e : FormulaError} {untaken : List TokenItem}
    (hpoint : point.openings.length ≤ depth)
    (h : point.read depth items = .error (e, untaken)) : Blames items e := by
  induction items generalizing point with
  | nil =>
      by_cases hend : point = behindOperand []
      · subst hend
        cases h
      · rw [read_nil_of_ne hend] at h
        cases h
        exact .ending
  | cons item items ih =>
      cases item with
      | error err =>
          rw [read_lexError] at h
          cases h
          exact .item List.mem_cons_self
      | ok token =>
          cases hstep : point.step depth token with
          | ok next =>
              rw [read_of_step_ok hstep] at h
              exact (ih (step_eq_ok_iff.mp hstep).2 h).cons _
          | error e' =>
              rw [read_of_step_error hstep, Except.error.injEq] at h
              have hblames : Blames (.ok token :: items) (point.refusal e' items).1 :=
                blames_of_refusal (blames_of_step hpoint hstep) point
              rwa [h] at hblames

/-! ## Reading items further to the right -/

theorem step_shift (depth n : Nat) (point : Point) (token : Token) :
    point.step depth (token.shift n) = (point.step depth token).mapError (ParseError.shift n) := by
  have hkind : (token.shift n).kind = token.kind := rfl
  cases hnext : point.next? token.kind with
  | none =>
      rw [step_of_next?_eq_none hnext, step_of_next?_eq_none (hkind ▸ hnext)]
      rfl
  | some next =>
      by_cases hdepth : next.openings.length ≤ depth
      · rw [step_of_length_le hnext hdepth, step_of_length_le (hkind ▸ hnext) hdepth]
        rfl
      · have hdeep := Nat.not_le.mp hdepth
        rw [step_of_lt_length hnext hdeep, step_of_lt_length (hkind ▸ hnext) hdeep]
        rfl

theorem refusal_shift (n : Nat) (e : ParseError) :
    point.refusal (e.shift n) (rest.map (TokenItem.shift n)) =
      ((point.refusal e rest).1.shift n, (point.refusal e rest).2.map (TokenItem.shift n)) := by
  cases point with
  | behindOperand openings => rfl
  | beforeOperand openings =>
      cases rest with
      | nil => rfl
      | cons item rest => cases item <;> rfl

theorem read_shift (depth n : Nat) (point : Point) (items : List TokenItem) :
    point.read depth (items.map (TokenItem.shift n)) =
      (point.read depth items).mapError fun failure =>
        (failure.1.shift n, failure.2.map (TokenItem.shift n)) := by
  induction items generalizing point with
  | nil =>
      by_cases hend : point = behindOperand []
      · subst hend
        rfl
      · rw [List.map_nil, read_nil_of_ne hend]
        rfl
  | cons item items ih =>
      cases item with
      | error err =>
          rw [List.map_cons, TokenItem.shift, read_lexError, read_lexError]
          rfl
      | ok token =>
          have hshift := step_shift depth n point token
          rw [List.map_cons, TokenItem.shift]
          cases hstep : point.step depth token with
          | ok next =>
              rw [hstep] at hshift
              rw [read_of_step_ok hshift, read_of_step_ok hstep, ih]
          | error e =>
              rw [hstep] at hshift
              rw [read_of_step_error hshift, read_of_step_error hstep, refusal_shift]
              rfl

end Point

namespace Expr

open Point

theorem blames_of_parse {items : List TokenItem} {e : FormulaError} (h : parse items = .error e) :
    Blames items e := by
  obtain ⟨after, hparse⟩ := parse_eq_error_iff.mp h
  exact blames_of_read (Nat.zero_le _) (read_of_parseWithin_eq_error hparse)

/-- The kinds of tokens alone decide which expression they are. -/
theorem parse_of_kinds_eq {ts us : List Token} {e : Expr} (h : parse (ts.map .ok) = .ok e)
    (hkinds : us.map Token.kind = ts.map Token.kind) : parse (us.map .ok) = .ok e := by
  obtain ⟨after, hparse⟩ := parse_eq_ok_iff.mp h
  obtain ⟨⟨ts', hts, hts'⟩, hcanonical, hnesting⟩ := parseWithin_sound hparse
  obtain rfl : ts = ts' := (List.map_inj_right fun _ _ => Except.ok.inj).mp hts
  rw [← hkinds] at hts'
  exact parse_eq_ok_iff.mpr ⟨_, parseWithin_complete hcanonical hnesting hts'⟩

/-- Items further to the right give the same expression, or the same error further to the right. -/
theorem parse_shift (n : Nat) (items : List TokenItem) :
    parse (items.map (TokenItem.shift n)) = (parse items).mapError (FormulaError.shift n) := by
  cases hparse : parse items with
  | ok e =>
      obtain ⟨after, hwithin⟩ := parse_eq_ok_iff.mp hparse
      obtain ⟨⟨ts, rfl, -⟩, -⟩ := parseWithin_sound hwithin
      have hitems : (ts.map .ok).map (TokenItem.shift n) = (ts.map (Token.shift n)).map .ok := by
        rw [List.map_map, List.map_map]
        rfl
      rw [hitems]
      refine parse_of_kinds_eq hparse ?_
      rw [List.map_map]
      rfl
  | error e =>
      obtain ⟨after, hwithin⟩ := parse_eq_error_iff.mp hparse
      have hread := read_shift maxNesting n (beforeOperand []) items
      rw [read_of_parseWithin_eq_error hwithin] at hread
      exact (parse_of_read_error hread).1

end Expr

end CellFormula
