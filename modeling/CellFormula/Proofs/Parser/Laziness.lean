import CellFormula.Proofs.Parser.ViablePrefix

/-! # The parser takes no more items than it has to

Where an operand is expected a token is moved past before it is refused, and behind an operand it is
not. So a refusal takes one more item or none, and an error among the items comes before a refusal
exactly if it is taken. What has not been taken has no influence on the answer.
-/

namespace CellFormula

/-- A token of the kind can be the last one of an operand. -/
def TokenKind.endsOperand : TokenKind → Bool
  | literal _ => true
  | rightParen => true
  | rightBrace => true
  | _ => false

namespace Point

/-! ## Reading along a walk -/

def isBehind : Point → Bool
  | beforeOperand _ => false
  | behindOperand _ => true

section Walks

variable {depth : Nat} {point last : Point} {ts : List Token} {rest : List TokenItem}

theorem isBehind_of_next? {kind : TokenKind} (h : point.next? kind = some last) :
    last.isBehind = kind.endsOperand := by
  unfold next? at h
  split at h
  · cases h; rfl
  · obtain ⟨sign, -, rfl⟩ := Option.map_eq_some_iff.mp h
    rfl
  all_goals cases h; try rfl

/-- A walk ends behind an operand exactly if its last token can end one. -/
theorem isBehind_of_walk (h : (beforeOperand []).walk depth ts = .ok last) :
    last.isBehind = ts.getLast?.any fun token => token.kind.endsOperand := by
  rcases List.eq_nil_or_concat ts with rfl | ⟨pre, token, rfl⟩
  · cases h
    rfl
  · rw [List.concat_eq_append] at h ⊢
    obtain ⟨next, -, hstep⟩ := walk_append_eq_ok h
    cases hnext : next.step depth token with
    | error e => simp [walk_cons_of_error hnext] at hstep
    | ok beyond =>
        rw [walk_cons_of_ok hnext] at hstep
        cases hstep
        rw [isBehind_of_next? (step_eq_ok_iff.mp hnext).1]
        simp

theorem read_of_walk (h : point.walk depth ts = .ok last) :
    point.read depth (ts.map .ok ++ rest) = last.read depth rest := by
  induction ts generalizing point with
  | nil =>
      cases h
      rfl
  | cons token ts ih =>
      cases hstep : point.step depth token with
      | error e => simp [walk_cons_of_error hstep] at h
      | ok next =>
          rw [walk_cons_of_ok hstep] at h
          rw [List.map_cons, List.cons_append, read_of_step_ok hstep, ih h]

/-- Reading walks up to the end, up to an error among the items, or up to a token that is
refused. -/
theorem read_stops (depth : Nat) (point : Point) (items : List TokenItem) :
    ∃ (ts : List Token) (last : Point), point.walk depth ts = .ok last ∧
      (items = ts.map .ok ∨
        (∃ err rest, items = ts.map .ok ++ .error err :: rest) ∨
        ∃ token rest e, items = ts.map .ok ++ .ok token :: rest ∧
          last.step depth token = .error e) := by
  induction items generalizing point with
  | nil => exact ⟨[], point, rfl, .inl rfl⟩
  | cons item items ih =>
      cases item with
      | error err => exact ⟨[], point, rfl, .inr (.inl ⟨err, items, rfl⟩)⟩
      | ok token =>
          cases hstep : point.step depth token with
          | error e => exact ⟨[], point, rfl, .inr (.inr ⟨token, items, e, rfl, hstep⟩)⟩
          | ok next =>
              obtain ⟨ts, last, hwalk, hstop⟩ := ih next
              refine ⟨token :: ts, last, by rw [walk_cons_of_ok hstep, hwalk], ?_⟩
              rcases hstop with rfl | ⟨err, rest, rfl⟩ | ⟨refused, rest, e, rfl, hrefused⟩
              · exact .inl rfl
              · exact .inr (.inl ⟨err, rest, rfl⟩)
              · exact .inr (.inr ⟨refused, rest, e, rfl, hrefused⟩)

/-- Behind an operand no token is refused for its depth. -/
theorem eq_unexpectedToken_of_behind {token : Token} {e : ParseError} (hbehind : last.isBehind = true)
    (hdepth : last.openings.length ≤ depth) (h : last.step depth token = .error e) :
    e = .unexpectedToken token.text token.position := by
  cases hnext : last.next? token.kind with
  | none =>
      rw [step_of_next?_eq_none hnext] at h
      cases h
      rfl
  | some next =>
      have hle : next.openings.length ≤ last.openings.length := by
        unfold next? at hnext
        split at hnext
        all_goals first | cases hbehind | skip
        · cases hnext
          exact Nat.le_refl _
        · cases hnext
          exact Nat.le_succ_of_le (length_closeSigns_le _)
        · cases hnext
          exact Nat.le_refl _
        · cases hnext
          exact Nat.le_succ_of_le (length_closeSigns_le _)
        · cases hnext
      rw [step_of_length_le hnext (Nat.le_trans hle hdepth)] at h
      cases h

theorem refusal_of_behind {e : ParseError} (h : last.isBehind = true) :
    last.refusal e rest = (.parse e, rest) := by
  cases last with
  | beforeOperand openings => cases h
  | behindOperand openings => rfl

/-- Before an operand the item behind a refused token is taken as well. -/
theorem refusal_of_before {e : ParseError} (h : last.isBehind = false) :
    last.refusal e [] = (.parse e, []) ∧
      (∀ err rest, last.refusal e (.error err :: rest) = (.lex err, rest)) ∧
      ∀ token rest, last.refusal e (.ok token :: rest) = (.parse e, rest) := by
  cases last with
  | beforeOperand openings => exact ⟨rfl, fun _ _ => rfl, fun _ _ => rfl⟩
  | behindOperand openings => cases h

end Walks

end Point

namespace Expr

open Point

/-! ## Items taken and items asked for -/

/-- How many times the parser asks for the next item, up to the first time that there is none: an
error put behind the items stops it there. -/
def asked (items : List TokenItem) : Nat :=
  pulled (items ++ [.error ⟨.unexpectedCharacter, "", 0⟩])

/-- Items that answer the first calls for the next item alike are parsed alike. -/
def DependsOnFirst (n : Nat) (items : List TokenItem) : Prop :=
  ∀ items' : List TokenItem, (∀ i < n, items'[i]? = items[i]?) →
    parse items' = parse items ∧ pulled items' = pulled items

/-- The parser takes the items that it asked for, as far as there are any, and nothing but the
answers to its calls decides what it gives. -/
structure IsLazy (items : List TokenItem) : Prop where
  pulled_eq : pulled items = min (asked items) items.length
  depends : DependsOnFirst (asked items) items

section Answers

variable {items taken : List TokenItem} {e : FormulaError}

theorem parse_of_read_error {untaken : List TokenItem}
    (h : (beforeOperand []).read maxNesting items = .error (e, untaken)) :
    parse items = .error e ∧ pulled items = items.length - untaken.length := by
  cases hparse : parseWithin maxNesting items with
  | ok e' after =>
      rw [read_of_parseWithin_eq_ok hparse] at h
      cases h
  | error e' after =>
      rw [read_of_parseWithin_eq_error hparse] at h
      cases h
      exact ⟨parse_eq_error_iff.mpr ⟨after, hparse⟩, by rw [pulled, hparse]⟩

theorem parse_of_read_ok (h : (beforeOperand []).read maxNesting items = .ok ()) :
    (∃ e, parse items = .ok e) ∧ pulled items = items.length := by
  cases hparse : parseWithin maxNesting items with
  | error e' after =>
      rw [read_of_parseWithin_eq_error hparse] at h
      cases h
  | ok e' after =>
      obtain ⟨-, hend⟩ := Parser.reads_of_formula hparse
      have hpending : after.pending = [] := (List.append_eq_nil_iff.mp hend).2
      refine ⟨⟨e', parse_eq_ok_iff.mpr ⟨after, hparse⟩⟩, ?_⟩
      simp [pulled, hparse, hpending]

/-- Items that settle the answer whatever follows are all that is asked for. -/
theorem isLazy_of_settled
    (h : ∀ more, (beforeOperand []).read maxNesting (taken ++ more) = .error (e, more))
    (untaken : List TokenItem) :
    parse (taken ++ untaken) = .error e ∧ pulled (taken ++ untaken) = taken.length ∧
      IsLazy (taken ++ untaken) := by
  have hanswer : ∀ more, parse (taken ++ more) = .error e ∧
      pulled (taken ++ more) = taken.length := by
    intro more
    obtain ⟨hparse, hpulled⟩ := parse_of_read_error (h more)
    refine ⟨hparse, ?_⟩
    rw [hpulled, List.length_append, Nat.add_sub_cancel_right]
  have hasked : asked (taken ++ untaken) = taken.length := by
    rw [asked, List.append_assoc, (hanswer _).2]
  refine ⟨(hanswer untaken).1, (hanswer untaken).2, ?_, ?_⟩
  · rw [hasked, (hanswer untaken).2, List.length_append, Nat.min_eq_left (Nat.le_add_right _ _)]
  · rw [hasked]
    intro items' hsame
    have hprefix : taken <+: items' := by
      rw [List.prefix_iff_getElem?]
      intro i hlt
      rw [hsame i hlt, List.getElem?_append_left hlt, List.getElem?_eq_getElem hlt]
    obtain ⟨more, rfl⟩ := hprefix
    rw [(hanswer more).1, (hanswer more).2, (hanswer untaken).1, (hanswer untaken).2]
    exact ⟨rfl, rfl⟩

/-- Where an error behind the items would be met, the end is asked for. -/
theorem isLazy_of_end (hpulled : pulled items = items.length)
    (h : ∀ err, (beforeOperand []).read maxNesting (items ++ [.error err]) =
      .error (.lex err, [])) : IsLazy items := by
  have hasked : asked items = items.length + 1 := by
    rw [asked, (parse_of_read_error (h _)).2, List.length_append]
    rfl
  refine ⟨by rw [hpulled, hasked, Nat.min_eq_right (Nat.le_succ _)], ?_⟩
  rw [hasked]
  intro items' hsame
  have hend : items'.length ≤ items.length := by
    rw [← List.getElem?_eq_none_iff, hsame _ (Nat.lt_succ_self _)]
    exact List.getElem?_eq_none (Nat.le_refl _)
  obtain rfl : items' = items := by
    apply List.ext_getElem?
    intro i
    rcases Nat.lt_or_ge i (items.length + 1) with hlt | hge
    · exact hsame i hlt
    · rw [List.getElem?_eq_none (by omega), List.getElem?_eq_none (by omega)]
  exact ⟨rfl, rfl⟩

end Answers

/-! ## Every outcome -/

/-- The tokens can be completed to a formula, and with the next one they cannot, which the error
says. -/
structure Refuses (ts : List Token) (token : Token) (e : ParseError) : Prop where
  viable : IsViable ts
  impossible : ¬ IsViable (ts ++ [token])
  blames : e = .unexpectedToken token.text token.position ∨ e = .nestingTooDeep token.position

/-- What the parser takes of the items, by its answer. -/
structure TakesLazily (items : List TokenItem) : Prop extends IsLazy items where
  /-- An expression is read from all items, and none of them is an error. -/
  ok : ∀ e, parse items = .ok e →
    (∃ ts : List Token, items = ts.map .ok) ∧ pulled items = items.length
  /-- An error among the items is the first one, and the last item taken. -/
  lex : ∀ err, parse items = .error (.lex err) →
    ∃ (ts : List Token) (rest : List TokenItem), items = ts.map .ok ++ .error err :: rest ∧
      pulled items = ts.length + 1
  /-- A token refused behind an operand is the last item taken. A token refused where an operand is
  expected is followed by one more, if there is one. All items taken are tokens. -/
  refused : ∀ e, parse items = .error (.parse e) → e ≠ .unexpectedEnd →
    ∃ (ts : List Token) (token : Token) (rest : List TokenItem),
      items = ts.map .ok ++ .ok token :: rest ∧ Refuses ts token e ∧
      (∃ taken : List Token, items.take (pulled items) = taken.map .ok) ∧
      if (ts.getLast?.any fun token => token.kind.endsOperand) = true then
        e = .unexpectedToken token.text token.position ∧ pulled items = ts.length + 1
      else
        pulled items = min (ts.length + 2) items.length

section Outcomes

variable {ts : List Token} {last : Point} {token : Token} {rest : List TokenItem} {e : ParseError}

theorem refuses_of_step (hwalk : (beforeOperand []).walk maxNesting ts = .ok last)
    (hstep : last.step maxNesting token = .error e) : Refuses ts token e where
  viable := isViable_of_walk hwalk
  impossible := not_isViable_of_refused hwalk hstep
  blames := by
    unfold step at hstep
    split at hstep
    · cases hstep
      exact .inl rfl
    · split at hstep
      · cases hstep
      · cases hstep
        exact .inr rfl

/-- Tokens up to the end. -/
theorem takesLazily_tokens (hwalk : (beforeOperand []).walk maxNesting ts = .ok last) :
    TakesLazily (ts.map .ok) := by
  have hread : ∀ rest, (beforeOperand []).read maxNesting (ts.map .ok ++ rest) =
      last.read maxNesting rest := fun rest => read_of_walk hwalk
  have hend := hread []
  rw [List.append_nil] at hend
  have hask : ∀ err, (beforeOperand []).read maxNesting (ts.map .ok ++ [.error err]) =
      .error (.lex err, []) := fun err => (hread _).trans read_lexError
  by_cases hlast : last = behindOperand []
  · subst hlast
    obtain ⟨⟨e, hparse⟩, hpulled⟩ := parse_of_read_ok hend
    refine ⟨isLazy_of_end hpulled hask, fun _ _ => ⟨⟨ts, rfl⟩, hpulled⟩, ?_, ?_⟩
    · simp [hparse]
    · simp [hparse]
  · rw [read_nil_of_ne hlast] at hend
    obtain ⟨hparse, hpulled⟩ := parse_of_read_error hend
    refine ⟨isLazy_of_end hpulled hask, ?_, ?_, ?_⟩
    · simp [hparse]
    · simp [hparse]
    · intro e h hne
      rw [hparse] at h
      cases h
      exact absurd rfl hne

/-- Tokens up to an error among the items that is taken. -/
theorem takesLazily_lexError {err : LexError}
    (h : ∀ more, (beforeOperand []).read maxNesting (ts.map .ok ++ .error err :: more) =
      .error (.lex err, more)) : TakesLazily (ts.map .ok ++ .error err :: rest) := by
  have hsettled : ∀ more, (beforeOperand []).read maxNesting
      (ts.map .ok ++ [.error err] ++ more) = .error (.lex err, more) := by
    intro more
    rw [List.append_assoc]
    exact h more
  obtain ⟨hparse, hpulled, hlazy⟩ := isLazy_of_settled hsettled rest
  rw [List.append_assoc, List.singleton_append] at hparse hpulled hlazy
  rw [List.length_append, List.length_map] at hpulled
  refine ⟨hlazy, ?_, ?_, ?_⟩
  · simp [hparse]
  · intro err' herr
    rw [hparse] at herr
    cases herr
    exact ⟨ts, rest, rfl, hpulled⟩
  · simp [hparse]

section Refused

variable (hwalk : (beforeOperand []).walk maxNesting ts = .ok last)
  (hstep : last.step maxNesting token = .error e)
include hwalk hstep

theorem read_refused (more : List TokenItem) :
    (beforeOperand []).read maxNesting (ts.map .ok ++ .ok token :: more) =
      .error (last.refusal e more) := by
  rw [read_of_walk hwalk, read_of_step_error hstep]

/-- A token that is refused, with so many tokens taken as its place asks for. -/
theorem takesLazily_refused (hlazy : IsLazy (ts.map .ok ++ .ok token :: rest))
    (hparse : parse (ts.map .ok ++ .ok token :: rest) = .error (.parse e)) {taken : List Token}
    {untaken : List TokenItem} (hitems : ts.map .ok ++ .ok token :: rest = taken.map .ok ++ untaken)
    (hpulled : pulled (ts.map .ok ++ .ok token :: rest) = taken.length)
    (hcount : taken.length = if last.isBehind = true then ts.length + 1
      else min (ts.length + 2) (ts.map .ok ++ .ok token :: rest : List TokenItem).length) :
    TakesLazily (ts.map .ok ++ .ok token :: rest) := by
  refine ⟨hlazy, by simp [hparse], by simp [hparse], ?_⟩
  intro e' h _
  rw [hparse] at h
  cases h
  refine ⟨ts, token, rest, rfl, refuses_of_step hwalk hstep, ⟨taken, ?_⟩, ?_⟩
  · rw [hpulled, hitems, List.take_left' (List.length_map _)]
  · rw [← isBehind_of_walk hwalk, hpulled]
    split
    · rename_i hbehind
      rw [if_pos hbehind] at hcount
      have hdepth := length_openings_le_of_walk (Nat.zero_le _) hwalk
      exact ⟨eq_unexpectedToken_of_behind hbehind hdepth hstep, hcount⟩
    · rename_i hbefore
      rw [if_neg hbefore] at hcount
      exact hcount

theorem takesLazily_behind (hbehind : last.isBehind = true) :
    TakesLazily (ts.map .ok ++ .ok token :: rest) := by
  have hsettled : ∀ more, (beforeOperand []).read maxNesting
      ((ts ++ [token]).map .ok ++ more) = .error (.parse e, more) := by
    intro more
    rw [List.map_append, List.append_assoc]
    exact (read_refused hwalk hstep more).trans (congrArg _ (refusal_of_behind hbehind))
  obtain ⟨hparse, hpulled, hlazy⟩ := isLazy_of_settled hsettled rest
  have hitems : ts.map .ok ++ .ok token :: rest =
      (ts ++ [token]).map (.ok : Token → TokenItem) ++ rest := by simp
  rw [← hitems] at hparse hpulled hlazy
  rw [List.length_map] at hpulled
  refine takesLazily_refused hwalk hstep hlazy hparse hitems hpulled ?_
  rw [if_pos hbehind, List.length_append, List.length_singleton]

theorem takesLazily_before (hbefore : last.isBehind = false) :
    TakesLazily (ts.map .ok ++ .ok token :: rest) := by
  obtain ⟨hnil, herror, hok⟩ := refusal_of_before (e := e) hbefore
  have hread := read_refused hwalk hstep
  have hcount : ¬ last.isBehind = true := by simp [hbefore]
  cases rest with
  | nil =>
      have hitems : ts.map .ok ++ [.ok token] =
          (ts ++ [token]).map (.ok : Token → TokenItem) ++ [] := by simp
      obtain ⟨hparse, hpulled⟩ := parse_of_read_error ((hread []).trans (congrArg _ hnil))
      have hlazy : IsLazy (ts.map .ok ++ [.ok token]) := by
        refine isLazy_of_end hpulled fun err => ?_
        rw [List.append_assoc]
        exact (hread _).trans (congrArg _ (herror err []))
      refine takesLazily_refused hwalk hstep hlazy hparse hitems ?_ ?_
      · rw [hpulled]
        simp
      · rw [if_neg hcount]
        simp
  | cons item rest =>
      cases item with
      | error err =>
          have hlex : TakesLazily ((ts ++ [token]).map .ok ++ .error err :: rest) := by
            refine takesLazily_lexError fun more => ?_
            rw [List.map_append, List.append_assoc]
            exact (hread _).trans (congrArg _ (herror err more))
          simpa using hlex
      | ok next =>
          have hsettled : ∀ more, (beforeOperand []).read maxNesting
              ((ts ++ [token, next]).map .ok ++ more) = .error (.parse e, more) := by
            intro more
            rw [List.map_append, List.append_assoc]
            exact (hread _).trans (congrArg _ (hok next more))
          obtain ⟨hparse, hpulled, hlazy⟩ := isLazy_of_settled hsettled rest
          have hitems : ts.map .ok ++ .ok token :: .ok next :: rest =
              (ts ++ [token, next]).map (.ok : Token → TokenItem) ++ rest := by simp
          rw [← hitems] at hparse hpulled hlazy
          rw [List.length_map] at hpulled
          refine takesLazily_refused hwalk hstep hlazy hparse hitems hpulled ?_
          rw [if_neg hcount, hitems]
          simp

end Refused

end Outcomes

/-- Whatever the items are, the parser takes them lazily. -/
theorem parse_takesLazily (items : List TokenItem) : TakesLazily items := by
  obtain ⟨ts, last, hwalk, rfl | ⟨err, rest, rfl⟩ | ⟨token, rest, e, rfl, hstep⟩⟩ :=
    read_stops maxNesting (beforeOperand []) items
  · exact takesLazily_tokens hwalk
  · exact takesLazily_lexError fun more => (read_of_walk hwalk).trans read_lexError
  · cases hbehind : last.isBehind with
    | true => exact takesLazily_behind hwalk hstep hbehind
    | false => exact takesLazily_before hwalk hstep hbehind

/-- A parenthesis too many is refused before the error behind it is met. An operator without its
left operand is refused after that, and so the error comes first. -/
theorem parse_takesLazily_before_error :
    let err : LexError := ⟨.unexpectedCharacter, "?", 9⟩
    let behind : List TokenItem :=
      [.ok ⟨.literal (.boolean true), "TRUE", 0⟩, .ok ⟨.rightParen, ")", 4⟩, .error err]
    let before : List TokenItem := [.ok ⟨.operator .concat, "&", 0⟩, .error err]
    (parse behind = .error (.parse (.unexpectedToken ")" 4)) ∧ pulled behind = 2 ∧
      ∀ rest, parse (behind.take 2 ++ rest) = parse behind) ∧
    parse before = .error (.lex err) ∧ pulled before = 2 := by
  intro err behind before
  have hasked : asked behind = 2 := by decide
  refine ⟨⟨rfl, (parse_takesLazily behind).pulled_eq.trans (by rw [hasked]; rfl), fun rest => ?_⟩,
    rfl, ?_⟩
  · refine ((parse_takesLazily behind).depends _ fun i hi => ?_).1
    rw [hasked] at hi
    match i, hi with
    | 0, _ => rfl
    | 1, _ => rfl
  · obtain ⟨ts, rest, hitems, hpulled⟩ := (parse_takesLazily before).lex err rfl
    rw [hpulled]
    match ts, hitems with
    | [_], _ => rfl

end Expr

end CellFormula
