import CellFormula.Proofs.Parser.Simulation
import CellFormula.Proofs.Parser.Soundness

/-! # Errors are reported at the earliest possible token

What stands before a refused token can still be completed to a formula, and with the token it
cannot. A token is refused for its depth exactly where another limit would let it pass.
-/

namespace CellFormula

open Point

namespace Expr

/-- The tokens are a formula. -/
def IsAccepted (ts : List Token) : Prop :=
  ∃ e, parse (ts.map .ok) = .ok e

/-- The tokens are a formula if the nesting may be as deep as they need. -/
def IsAcceptedUnlimited (ts : List Token) : Prop :=
  ∃ depth e after, parseWithin depth (ts.map .ok) = .ok e after

/-- The tokens can be completed to a formula. -/
def IsViable (ts : List Token) : Prop :=
  ∃ rest, IsAccepted (ts ++ rest)

/-! ## Parsing tokens is walking from point to point -/

theorem read_of_parseWithin_eq_ok {depth : Nat} {items : List TokenItem} {e : Expr}
    {after : Cursor} (h : parseWithin depth items = .ok e after) :
    (beforeOperand []).read depth items = .ok () := by
  obtain ⟨-, hend⟩ := Parser.reads_of_formula h
  obtain ⟨-, -, -, hread⟩ := (Parser.followsAt_formula (Nat.le_refl _)).ok h
  rw [hend] at hread
  exact hread

theorem read_of_parseWithin_eq_error {depth : Nat} {items : List TokenItem} {e : FormulaError}
    {after : Cursor} (h : parseWithin depth items = .error e after) :
    (beforeOperand []).read depth items = .error (e, after.pending) :=
  (Parser.followsAt_formula (Nat.le_refl _)).error h

theorem read_tokens_eq_ok_iff {depth : Nat} {point : Point} {ts : List Token} :
    point.read depth (ts.map .ok) = .ok () ↔ point.walk depth ts = .ok (behindOperand []) := by
  induction ts generalizing point with
  | nil =>
      by_cases h : point = behindOperand []
      · subst h
        exact ⟨fun _ => rfl, fun _ => rfl⟩
      · rw [List.map_nil, read_nil_of_ne h]
        exact ⟨nofun, fun hwalk => absurd (Except.ok.inj hwalk) h⟩
  | cons token ts ih =>
      cases hstep : point.step depth token with
      | ok next => rw [List.map_cons, read_of_step_ok hstep, walk_cons_of_ok hstep, ih]
      | error e => simp [read_of_step_error hstep, walk_cons_of_error hstep]

/-- Among tokens reading fails where walking does, or at the end of a walk that is not complete. -/
theorem read_tokens_eq_error {depth : Nat} {point : Point} {ts : List Token} {e : FormulaError}
    {untaken : List TokenItem} (h : point.read depth (ts.map .ok) = .error (e, untaken)) :
    (∃ last, point.walk depth ts = .ok last ∧ e = .parse .unexpectedEnd) ∨
      ∃ e', point.walk depth ts = .error e' ∧ e = .parse e' := by
  induction ts generalizing point with
  | nil =>
      by_cases hpoint : point = behindOperand []
      · subst hpoint
        cases h
      · rw [List.map_nil, read_nil_of_ne hpoint] at h
        cases h
        exact .inl ⟨point, rfl, rfl⟩
  | cons token ts ih =>
      cases hstep : point.step depth token with
      | ok next =>
          rw [List.map_cons, read_of_step_ok hstep] at h
          rw [walk_cons_of_ok hstep]
          exact ih h
      | error e' =>
          rw [List.map_cons, read_of_step_error hstep] at h
          refine .inr ⟨e', walk_cons_of_error hstep, ?_⟩
          cases point <;> cases ts <;> cases h <;> rfl

theorem exists_parseWithin_eq_ok_iff {depth : Nat} {ts : List Token} :
    (∃ e after, parseWithin depth (ts.map .ok) = .ok e after) ↔
      (beforeOperand []).walk depth ts = .ok (behindOperand []) := by
  rw [← read_tokens_eq_ok_iff]
  constructor
  · rintro ⟨e, after, h⟩
    exact read_of_parseWithin_eq_ok h
  · intro h
    cases hparse : parseWithin depth (ts.map .ok) with
    | ok e after => exact ⟨e, after, rfl⟩
    | error e after =>
        rw [read_of_parseWithin_eq_error hparse] at h
        cases h

theorem isAccepted_iff {ts : List Token} :
    IsAccepted ts ↔ (beforeOperand []).walk maxNesting ts = .ok (behindOperand []) := by
  rw [← exists_parseWithin_eq_ok_iff]
  exact exists_congr fun e => parse_eq_ok_iff

theorem isAcceptedUnlimited_iff {ts : List Token} :
    IsAcceptedUnlimited ts ↔
      ∃ depth, (beforeOperand []).walk depth ts = .ok (behindOperand []) :=
  exists_congr fun _ => exists_parseWithin_eq_ok_iff

/-- What was walked through can be completed. -/
theorem exists_completion {depth : Nat} {ts : List Token} {last : Point}
    (h : (beforeOperand []).walk depth ts = .ok last) :
    ∃ rest ≠ [], (beforeOperand []).walk depth (ts ++ rest) = .ok (behindOperand []) := by
  have hdepth := length_openings_le_of_walk (Nat.zero_le depth) h
  refine ⟨last.completion.map fun kind => ⟨kind, "", 0⟩, ?_, ?_⟩
  · simpa using last.completion_ne_nil
  · rw [walk_append_of_ok h, walk_completion hdepth]

theorem isViable_of_walk {ts : List Token} {last : Point}
    (h : (beforeOperand []).walk maxNesting ts = .ok last) : IsViable ts := by
  obtain ⟨rest, -, hrest⟩ := exists_completion h
  exact ⟨rest, isAccepted_iff.mpr hrest⟩

/-! ## The refused token -/

section Refused

variable {pre : List Token} {token : Token} {next : Point}

theorem not_isViable_of_refused {e : ParseError}
    (hpre : (beforeOperand []).walk maxNesting pre = .ok next)
    (hstep : next.step maxNesting token = .error e) : ¬ IsViable (pre ++ [token]) := by
  rintro ⟨rest, hrest⟩
  rw [isAccepted_iff, List.append_assoc, List.singleton_append, walk_append_of_ok hpre,
    walk_cons_of_error hstep] at hrest
  cases hrest

/-- No depth lets a token pass that the point does not take. -/
theorem not_isAcceptedUnlimited_of_next?_eq_none {depth : Nat}
    (hpre : (beforeOperand []).walk depth pre = .ok next) (hnext : next.next? token.kind = none)
    (rest : List Token) : ¬ IsAcceptedUnlimited (pre ++ [token] ++ rest) := by
  intro h
  obtain ⟨depth', hwalk⟩ := isAcceptedUnlimited_iff.mp h
  rw [List.append_assoc, List.singleton_append] at hwalk
  obtain ⟨next', hpre', hrest⟩ := walk_append_eq_ok hwalk
  obtain rfl := walk_unique hpre hpre'
  rw [walk_cons_of_error (step_of_next?_eq_none hnext)] at hrest
  cases hrest

/-- A token that the point takes passes with enough depth, and then it can be completed. -/
theorem exists_isAcceptedUnlimited_of_next?_eq_some {depth : Nat} {beyond : Point}
    (hpre : (beforeOperand []).walk depth pre = .ok next)
    (hnext : next.next? token.kind = some beyond) :
    ∃ rest, IsAcceptedUnlimited (pre ++ [token] ++ rest) := by
  let enough := max depth beyond.openings.length
  have hstep : next.step enough token = .ok beyond :=
    step_of_length_le hnext (Nat.le_max_right depth beyond.openings.length)
  have hwalk : (beforeOperand []).walk enough (pre ++ [token]) = .ok beyond := by
    rw [walk_append_of_ok (walk_mono (Nat.le_max_left depth _) hpre), walk_cons_of_ok hstep]
    rfl
  obtain ⟨rest, -, hrest⟩ := exists_completion hwalk
  exact ⟨rest, isAcceptedUnlimited_iff.mpr ⟨enough, hrest⟩⟩

end Refused

/-- A parse that fails on tokens alone either ran to their end, and then they are the beginning of
a formula; or it blames a token such that the tokens before it are the beginning of a formula and
together with it are not. It blames the depth exactly if a deeper nesting would help. -/
theorem parse_error_earliest (ts : List Token) (e : FormulaError)
    (h : parse (ts.map .ok) = .error e) :
    (e = .parse .unexpectedEnd ∧ ∃ rest ≠ [], IsAccepted (ts ++ rest)) ∨
    ∃ i token, ts[i]? = some token ∧
      (e = .parse (.unexpectedToken token.text token.position) ∨
        e = .parse (.nestingTooDeep token.position)) ∧
      IsViable (ts.take i) ∧ ¬ IsViable (ts.take (i + 1)) ∧
      (e = .parse (.nestingTooDeep token.position) ↔
        ∃ rest, IsAcceptedUnlimited (ts.take (i + 1) ++ rest)) := by
  obtain ⟨after, hparse⟩ := parse_eq_error_iff.mp h
  have hread := read_of_parseWithin_eq_error hparse
  rcases read_tokens_eq_error hread with ⟨last, hwalk, rfl⟩ | ⟨e', hwalk, rfl⟩
  · obtain ⟨rest, hne, hrest⟩ := exists_completion hwalk
    exact .inl ⟨rfl, rest, hne, isAccepted_iff.mpr hrest⟩
  · obtain ⟨pre, token, post, next, rfl, hpre, hstep⟩ := walk_eq_error hwalk
    have htake : (pre ++ token :: post).take (pre.length + 1) = pre ++ [token] := by
      rw [List.take_length_add_append]
      rfl
    refine .inr ⟨pre.length, token, by simp, ?_⟩
    rw [htake, List.take_left]
    have hviable := isViable_of_walk hpre
    have hrefused := not_isViable_of_refused hpre hstep
    cases hnext : next.next? token.kind with
    | none =>
        rw [step_of_next?_eq_none hnext] at hstep
        cases hstep
        refine ⟨.inl rfl, hviable, hrefused, nofun, ?_⟩
        rintro ⟨rest, hrest⟩
        exact absurd hrest (not_isAcceptedUnlimited_of_next?_eq_none hpre hnext rest)
    | some beyond =>
        have hdeep : maxNesting < beyond.openings.length := by
          refine Nat.not_le.mp fun hle => ?_
          rw [step_of_length_le hnext hle] at hstep
          cases hstep
        rw [step_of_lt_length hnext hdeep] at hstep
        cases hstep
        exact ⟨.inr rfl, hviable, hrefused,
          fun _ => exists_isAcceptedUnlimited_of_next?_eq_some hpre hnext, fun _ => rfl⟩

/-- In `{TRUE,-)` the parenthesis is to blame, and no nesting would help. -/
theorem parse_error_earliest_array :
    let ts : List Token := [⟨.leftBrace, "\x7b", 0⟩, ⟨.literal (.boolean true), "TRUE", 1⟩,
      ⟨.comma, ",", 5⟩, ⟨.operator (.arithmetic .subtract), "-", 6⟩, ⟨.rightParen, ")", 7⟩]
    parse (ts.map .ok) = .error (.parse (.unexpectedToken ")" 7)) ∧
      ∃ i token, ts[i]? = some token ∧ token.position = 7 ∧ IsViable (ts.take i) ∧
        ¬ IsViable (ts.take (i + 1)) ∧
        ¬ ∃ rest, IsAcceptedUnlimited (ts.take (i + 1) ++ rest) := by
  intro ts
  have h : parse (ts.map .ok) = .error (.parse (.unexpectedToken ")" 7)) := rfl
  refine ⟨h, ?_⟩
  rcases parse_error_earliest ts _ h with
    ⟨hend, -⟩ | ⟨i, token, htoken, hblame, hviable, hrefused, hdepth⟩
  · cases hend
  · refine ⟨i, token, htoken, ?_, hviable, hrefused, fun hrest => ?_⟩
    · rcases hblame with hblame | hblame
      · simp only [FormulaError.parse.injEq, ParseError.unexpectedToken.injEq] at hblame
        exact hblame.2.symm
      · cases hblame
    · cases hdepth.mpr hrest

end Expr

end CellFormula
