import CellFormula.Proofs.Evaluation.Equations
import CellFormula.Proofs.Evaluation.Failure

/-! # Chains of concatenations

What a concatenation gives is a text or an error, and taken as an operand it stands for just that.
So the grouping of a chain does not matter: its value is the join of all texts, or the error of the
first operand that has no text.
-/

namespace CellFormula

namespace Value

/-! ## Texts as results -/

/-- A text as a value, or the error that stands in its place. -/
def ofText : Except ErrorKind String → Value
  | .ok s => text s
  | .error kind => error kind

/-- Two texts joined; a failure on the left comes before one on the right. -/
def joinTexts (s t : Except ErrorKind String) : Except ErrorKind String := do
  return (← s) ++ (← t)

/-- The texts of operands joined, or the first failure among them. -/
def joinedText (operands : List Value) : Except ErrorKind String :=
  operands.foldr (fun v rest => joinTexts v.toText rest) (.ok "")

theorem toText_ofText (s : Except ErrorKind String) : (ofText s).toText = s := by
  cases s <;> rfl

theorem joinTexts_assoc (s t u : Except ErrorKind String) :
    joinTexts (joinTexts s t) u = joinTexts s (joinTexts t u) := by
  cases s with
  | error kind => rfl
  | ok s =>
      cases t with
      | error kind => rfl
      | ok t =>
          cases u with
          | error kind => rfl
          | ok u => exact congrArg Except.ok String.append_assoc

theorem joinTexts_empty (s : Except ErrorKind String) : joinTexts s (.ok "") = s := by
  cases s with
  | error kind => rfl
  | ok s => exact congrArg Except.ok String.append_empty

/-! ## One concatenation -/

theorem concat_eq_ofText (left right : Value) :
    left.concat right = ofText (joinTexts left.toText right.toText) := by
  rw [concat]
  cases left.toText with
  | error kind => rfl
  | ok s => cases right.toText <;> rfl

theorem concat_assoc (a b c : Value) : (a.concat b).concat c = a.concat (b.concat c) := by
  simp only [concat_eq_ofText, toText_ofText, joinTexts_assoc]

/-! ## Chains -/

/-- Further concatenations join further texts behind the first. -/
theorem foldl_concat_ofText (rest : List Value) (s : Except ErrorKind String) :
    rest.foldl concat (ofText s) = ofText (joinTexts s (joinedText rest)) := by
  induction rest generalizing s with
  | nil => exact congrArg ofText (joinTexts_empty s).symm
  | cons v rest ih =>
      -- The value so far is coerced again, which gives back its own text or error.
      rw [List.foldl_cons, concat_eq_ofText, toText_ofText, ih, joinTexts_assoc]
      rfl

theorem foldl_concat_eq_ofText (first second : Value) (rest : List Value) :
    (second :: rest).foldl concat first = ofText (joinedText (first :: second :: rest)) := by
  rw [List.foldl_cons, concat_eq_ofText, foldl_concat_ofText, joinTexts_assoc]
  rfl

theorem joinedText_of_failure {operands : List Value} {kind : ErrorKind}
    (h : operands.findSome? (fun v => failureOf v.toText) = some kind) :
    joinedText operands = .error kind := by
  induction operands with
  | nil => cases h
  | cons v rest ih =>
      rw [joinedText, List.foldr_cons]
      cases hv : v.toText with
      | error kind' =>
          simp only [List.findSome?_cons, hv, failureOf, Option.some.injEq] at h
          rw [h]
          rfl
      | ok s =>
          simp only [List.findSome?_cons, hv, failureOf] at h
          exact congrArg (joinTexts (.ok s)) (ih h)

theorem joinedText_of_texts {operands : List Value}
    (h : operands.findSome? (fun v => failureOf v.toText) = none) :
    ∃ texts, operands.map toText = texts.map .ok ∧
      joinedText operands = .ok (String.join texts) := by
  induction operands with
  | nil => exact ⟨[], rfl, rfl⟩
  | cons v rest ih =>
      rw [joinedText, List.foldr_cons]
      cases hv : v.toText with
      | error kind => simp [hv, failureOf] at h
      | ok s =>
          simp only [List.findSome?_cons, hv, failureOf] at h
          obtain ⟨texts, htexts, hjoined⟩ := ih h
          refine ⟨s :: texts, by simp [hv, htexts], ?_⟩
          rw [String.join_cons]
          exact congrArg (joinTexts (.ok s)) hjoined

end Value

/-- A chain of concatenations is evaluated from the left. -/
theorem Expr.evaluate_foldl_concat (first : Expr) (rest : List Expr) :
    (rest.foldl (binary .concat) first).evaluate =
      (rest.map evaluate).foldl Value.concat first.evaluate := by
  induction rest generalizing first with
  | nil => rfl
  | cons e rest ih =>
      rw [List.foldl_cons, ih, evaluate_binary]
      rfl

namespace Value

/-- Concatenation is associative. A chain of two or more operands, in a formula too, gives the error
of the first operand that has no text, and the join of all texts if there is no such operand. -/
theorem concat_chain_joins_texts :
    (∀ a b c : Value, (a.concat b).concat c = a.concat (b.concat c)) ∧
    (∀ (first second : Value) (rest : List Value),
      let operands := first :: second :: rest
      let chain := (second :: rest).foldl concat first
      (∀ kind, operands.findSome? (fun v => failureOf v.toText) = some kind →
        chain = error kind) ∧
      (operands.findSome? (fun v => failureOf v.toText) = none →
        ∃ texts, operands.map toText = texts.map .ok ∧ chain = text (String.join texts))) ∧
    ∀ (first : Expr) (rest : List Expr),
      (rest.foldl (.binary .concat) first).evaluate =
        (rest.map Expr.evaluate).foldl concat first.evaluate := by
  refine ⟨concat_assoc, ?_, Expr.evaluate_foldl_concat⟩
  intro first second rest operands chain
  have hchain : chain = ofText (joinedText operands) := foldl_concat_eq_ofText first second rest
  constructor
  · intro kind hkind
    rw [hchain, joinedText_of_failure hkind]
    rfl
  · intro hnone
    obtain ⟨texts, htexts, hjoined⟩ := joinedText_of_texts hnone
    refine ⟨texts, htexts, ?_⟩
    rw [hchain, hjoined]
    rfl

/-- A list, a truth value, an empty text and a number; and an empty list before an error. -/
theorem concat_chain_joins_texts_mixed :
    [boolean true, text "", number 2.5].foldl concat (list [text "a", number 1]) =
        text "aTRUE2.5" ∧
      [list [], error .na].foldl concat (text "a") = error .value := by
  obtain ⟨-, hchain, -⟩ := concat_chain_joins_texts
  have hwrite : cellNumber.write 2.5 = "2.5" := by decide +kernel
  have hmap : [list [text "a", number 1], boolean true, text "", number 2.5].map toText =
      ["a", "TRUE", "", "2.5"].map .ok := by
    rw [← hwrite]
    rfl
  obtain ⟨texts, htexts, hvalue⟩ :=
    (hchain (list [text "a", number 1]) (boolean true) [text "", number 2.5]).2 rfl
  obtain rfl : texts = ["a", "TRUE", "", "2.5"] :=
    (List.map_inj_right fun _ _ => Except.ok.inj).mp (htexts.symm.trans hmap)
  exact ⟨hvalue, (hchain _ _ _).1 .value rfl⟩

end Value

end CellFormula
