import CellFormula.CommandLine
import CellFormula.Proofs.Formula.Positions
import CellFormula.Proofs.Text.Delimited

/-! # Reports of failures

A formula may contain what looks like the rest of its report, and so may the characters that an
error quotes. But text that hangs has no blank line, and its indented lines are told from the lines
of the report. So the report shows both, and no two errors have the same message.
-/

namespace CellFormula

/-! ## Messages of errors -/

/-- The start of all messages about a fault. -/
def LexFault.label : LexFault → String
  | unterminatedString => "Unterminated string starting at position "
  | unexpectedCharacter => "Unexpected character '"
  | unknownIdentifier => "Unknown identifier '"
  | unknownError => "Unknown error literal '"
  | malformedNumber => "Malformed number '"

theorem LexFault.delimits_label (fault : LexFault) :
    Delimits (fun fault => fault.label.toList) (fun _ => True) fault := by
  refine delimits_of_starts (fun a b => ?_) fault
  cases a <;> cases b <;> decide

/-- The characters at fault and their position come apart at the last space. -/
theorem eq_of_quotedAt_eq {what found found' : String} {position position' : Nat}
    (h : quotedAt what found position = quotedAt what found' position') :
    found = found' ∧ position = position' := by
  have hspace (n : Nat) : ¬ [' '] <:+: n.repr.toList := by
    intro hmark
    have hmem := hmark.subset (List.mem_singleton_self ' ')
    rw [Nat.toList_repr] at hmem
    exact absurd (Nat.isDigit_of_mem_toDigits (by decide) (by decide) hmem) (by decide)
  have hchars (found : String) (position : Nat) : (quotedAt what found position).toList =
      (what ++ " '" ++ found ++ "' at position").toList ++ ' ' :: ([] ++ position.repr.toList) := by
    simp [quotedAt]
  have hlists := congrArg String.toList h
  rw [hchars, hchars] at hlists
  obtain ⟨hbefore, hdigits⟩ := eq_of_append_last (hspace position) (hspace position') hlists
  exact ⟨String.toList_inj.mp (by simpa using hbefore),
    Nat.repr_injective (String.toList_inj.mp hdigits)⟩

namespace LexError

theorem exists_message_eq (e : LexError) :
    ∃ detail, e.message.toList = e.fault.label.toList ++ detail := by
  obtain ⟨fault, found, position⟩ := e
  cases fault <;> exact ⟨_, by simp [message, quotedAt, LexFault.label]; rfl⟩

variable {e e' : LexError}

theorem fault_eq_of_message_eq (h : e.message = e'.message) : e.fault = e'.fault := by
  obtain ⟨detail, hdetail⟩ := e.exists_message_eq
  obtain ⟨detail', hdetail'⟩ := e'.exists_message_eq
  rw [h, hdetail'] at hdetail
  exact (e.fault.delimits_label e'.fault trivial _ _ hdetail.symm).1

/-- A text without end is blamed on its quote, which the message leaves out. -/
def BlamesQuote (e : LexError) : Prop :=
  e.fault = .unterminatedString → e.found = "\""

theorem eq_of_message_eq (he : e.BlamesQuote) (he' : e'.BlamesQuote)
    (h : e.message = e'.message) : e = e' := by
  have hfault := fault_eq_of_message_eq h
  obtain ⟨fault, found, position⟩ := e
  obtain ⟨fault', found', position'⟩ := e'
  cases hfault
  cases fault with
  | unterminatedString =>
      cases he rfl
      cases he' rfl
      cases Nat.repr_injective ((String.append_right_inj _).mp h)
      rfl
  | _ =>
      obtain ⟨rfl, rfl⟩ := eq_of_quotedAt_eq h
      rfl

end LexError

theorem ParseError.eq_of_message_eq {e e' : ParseError} (h : e.message = e'.message) : e = e' := by
  cases e <;> cases e'
  case unexpectedToken.unexpectedToken =>
      obtain ⟨rfl, rfl⟩ := eq_of_quotedAt_eq h
      rfl
  case unexpectedEnd.unexpectedEnd => rfl
  case nestingTooDeep.nestingTooDeep =>
      unfold message at h
      cases Nat.repr_injective ((String.append_right_inj _).mp h)
      rfl
  all_goals
    unfold message at h
    simp [quotedAt, ← String.toList_inj] at h

/-- The error is that of a text: where it blames a text without end, it blames the quote. -/
def FormulaError.BlamesQuote : FormulaError → Prop
  | lex e => e.BlamesQuote
  | parse _ => True

theorem FormulaError.eq_of_message_eq {e e' : FormulaError} (he : e.BlamesQuote)
    (he' : e'.BlamesQuote) (h : e.message = e'.message) : e = e' := by
  cases e with
  | lex e =>
      cases e' with
      | lex e' => rw [LexError.eq_of_message_eq he he' ((String.append_right_inj _).mp h)]
      | parse e' => simp [message, ← String.toList_inj] at h
  | parse e =>
      cases e' with
      | lex e' => simp [message, ← String.toList_inj] at h
      | parse e' => rw [ParseError.eq_of_message_eq ((String.append_right_inj _).mp h)]

theorem blamesQuote_of_mem_tokenize {source : String} {e : LexError}
    (h : .error e ∈ tokenize source) : e.BlamesQuote := by
  have hreports := TokenStream.reports_of_mem_items h
  obtain ⟨fault, found, position⟩ := e
  rintro rfl
  exact hreports

theorem Formula.blamesQuote_of_calculate {source : String} {e : FormulaError}
    (h : calculate source = .error e) : e.BlamesQuote := by
  cases Expr.blames_of_parse (calculate_eq_error_iff.mp h) with
  | item mem => exact blamesQuote_of_mem_tokenize mem
  | token => trivial
  | depth => trivial
  | ending => trivial

namespace CommandLine

/-! ## Hanging text -/

/-- The characters that hanging text has for one of the text. -/
def hung (indent : Nat) (c : Char) : List Char :=
  c :: if c = '\n' then List.replicate indent ' ' else []

theorem toList_hang (indent : Nat) (text : String) :
    (hang indent text).toList = text.toList.flatMap (hung indent) := by
  rw [hang, String.toList_ofList]
  congr 1
  funext c
  unfold hung
  split
  · rename_i heq
    rw [heq]
  · rfl

/-- Text on one line hangs as it stands. -/
theorem hang_of_notMem {text : String} (h : '\n' ∉ text.toList) (indent : Nat) :
    hang indent text = text := by
  have hsame : ∀ c ∈ text.toList, hung indent c = [c] := by
    intro c hc
    have hne : c ≠ '\n' := fun heq => h (heq ▸ hc)
    rw [hung, if_neg hne]
  apply String.toList_inj.mp
  rw [toList_hang, List.flatMap_congr hsame, List.flatMap_singleton']

variable {indent : Nat} {rest rest' : List Char}

/-- A line that is not indented is not part of hanging text. -/
theorem hung_append_ne (hrest : ¬ List.replicate indent ' ' <+: rest) (c : Char)
    (cs behind : List Char) :
    (c :: cs).flatMap (hung indent) ++ behind ≠ '\n' :: rest := by
  intro h
  rw [List.flatMap_cons, hung, List.cons_append, List.cons_append, List.append_assoc] at h
  obtain ⟨rfl, htail⟩ := List.cons.inj h
  rw [if_pos rfl] at htail
  exact hrest ⟨_, htail⟩

/-- Hanging text ends at the first line that is not indented. -/
theorem eq_of_hung_append {cs ds : List Char} (hrest : ¬ List.replicate indent ' ' <+: rest)
    (hrest' : ¬ List.replicate indent ' ' <+: rest')
    (h : cs.flatMap (hung indent) ++ '\n' :: rest = ds.flatMap (hung indent) ++ '\n' :: rest') :
    cs = ds ∧ rest = rest' := by
  induction cs generalizing ds with
  | nil =>
      cases ds with
      | nil => simpa using h
      | cons d ds => exact absurd h.symm (hung_append_ne hrest d ds _)
  | cons c cs ih =>
      cases ds with
      | nil => exact absurd h (hung_append_ne hrest' c cs _)
      | cons d ds =>
          rw [List.flatMap_cons, List.flatMap_cons, List.append_assoc, List.append_assoc] at h
          obtain rfl : c = d := (List.cons.inj h).1
          obtain ⟨rfl, rfl⟩ := ih (List.append_cancel_left h)
          exact ⟨rfl, rfl⟩

/-! ## Blank lines -/

/-- No two line feeds stand next to each other. -/
def HasNoBlankLine (cs : List Char) : Prop :=
  cs.IsChain fun c d => ¬ (c = '\n' ∧ d = '\n')

instance : DecidablePred HasNoBlankLine :=
  fun cs => inferInstanceAs (Decidable (cs.IsChain fun c d => ¬ (c = '\n' ∧ d = '\n')))

theorem HasNoBlankLine.no_pair {cs : List Char} (h : HasNoBlankLine cs) :
    ¬ ['\n', '\n'] <:+: cs := by
  intro hpair
  have hchain := List.IsChain.infix h hpair
  simp at hchain

theorem hasNoBlankLine_append {cs ds : List Char} (hcs : HasNoBlankLine cs)
    (hlast : cs.getLast? ≠ some '\n') (hds : HasNoBlankLine ds) : HasNoBlankLine (cs ++ ds) :=
  List.isChain_append.mpr ⟨hcs, hds, fun _ hc _ _ heq => hlast (heq.1 ▸ hc)⟩

theorem hasNoBlankLine_string_append {words behind : String} (hwords : HasNoBlankLine words.toList)
    (hlast : words.toList.getLast? ≠ some '\n') (h : HasNoBlankLine behind.toList) :
    HasNoBlankLine (words ++ behind).toList := by
  rw [String.toList_append]
  exact hasNoBlankLine_append hwords hlast h

/-- Hanging text has no blank line if every line but the first is indented. -/
theorem hasNoBlankLine_hung_append (hindent : 0 < indent) (cs : List Char)
    (h : HasNoBlankLine rest) : HasNoBlankLine (cs.flatMap (hung indent) ++ rest) := by
  induction cs with
  | nil => exact h
  | cons c cs ih =>
      obtain ⟨n, rfl⟩ : ∃ n, indent = n + 1 := ⟨indent - 1, by omega⟩
      rw [List.flatMap_cons, List.append_assoc]
      by_cases hc : c = '\n'
      · have hspaces : HasNoBlankLine (List.replicate (n + 1) ' ') :=
          List.isChain_replicate_of_rel _ (by decide)
        refine hasNoBlankLine_append ?_ ?_ ih
        · rw [hung, if_pos hc]
          exact List.isChain_cons.mpr ⟨by simp [List.replicate_succ], hspaces⟩
        · simp [hung, hc, List.getLast?_cons, List.getLast?_replicate]
      · rw [hung, if_neg hc]
        exact hasNoBlankLine_append (List.isChain_singleton c) (by simpa using hc) ih

theorem hasNoBlankLine_hang_append (hindent : 0 < indent) (text : String) {behind : String}
    (h : HasNoBlankLine behind.toList) : HasNoBlankLine (hang indent text ++ behind).toList := by
  rw [String.toList_append, toList_hang]
  exact hasNoBlankLine_hung_append hindent _ h

/-! ## Reports -/

/-- The formula stands before the last blank line of its report. -/
theorem eq_of_report_eq {head formula formula' body body' : String}
    (hbody : HasNoBlankLine body.toList) (hbody' : HasNoBlankLine body'.toList)
    (h : head ++ (formula ++ ("'\n\nCaused by:\n    " ++ body)) =
      head ++ (formula' ++ ("'\n\nCaused by:\n    " ++ body'))) :
    formula = formula' ∧ body = body' := by
  have hchars (formula body : String) :
      (formula ++ ("'\n\nCaused by:\n    " ++ body)).toList =
        (formula ++ "'").toList ++ '\n' :: (['\n'] ++ ("Caused by:\n    " ++ body).toList) := by
    simp only [String.toList_append, List.append_assoc]
    rfl
  have hblank {body : String} (hbody : HasNoBlankLine body.toList) :
      ¬ ['\n', '\n'] <:+: ['\n'] ++ ("Caused by:\n    " ++ body).toList := by
    have hwords : HasNoBlankLine "\nCaused by:\n    ".toList := by decide
    rw [String.toList_append]
    exact (hasNoBlankLine_append hwords (by decide) hbody).no_pair
  have hlists := congrArg String.toList ((String.append_right_inj head).mp h)
  rw [hchars, hchars] at hlists
  obtain ⟨hformula, hrest⟩ := eq_of_append_last (hblank hbody) (hblank hbody') hlists
  exact ⟨(String.append_left_inj _).mp (String.toList_inj.mp hformula),
    (String.append_right_inj _).mp (String.toList_inj.mp hrest)⟩

/-- Text that hangs is shown up to the line behind it. -/
theorem eq_of_hang_append {text text' rest rest' : String}
    (hrest : ¬ List.replicate indent ' ' <+: rest.toList)
    (hrest' : ¬ List.replicate indent ' ' <+: rest'.toList)
    (h : hang indent text ++ ("\n" ++ rest) = hang indent text' ++ ("\n" ++ rest')) :
    text = text' := by
  have hlists := congrArg String.toList h
  simp only [String.toList_append, toList_hang] at hlists
  exact String.toList_inj.mp (eq_of_hung_append hrest hrest' hlists).1

/-- A report of an evaluation shows the formula and the message of its error. -/
theorem eq_of_evaluateFailure_eq {formula formula' : String} {e e' : FormulaError}
    (h : evaluateFailure formula e = evaluateFailure formula' e') :
    formula = formula' ∧ e.message = e'.message := by
  have hfirst : "'\n\nCaused by:\n    0: " = "'\n\nCaused by:\n    " ++ "0: " := rfl
  have hsecond : "\n    1: " = "\n" ++ "    1: " := rfl
  have hbody (e : FormulaError) : HasNoBlankLine
      ("0: " ++ (hang 7 e.message ++ ("\n    1: " ++ (hang 7 e.cause ++ "\n")))).toList := by
    have hcause : HasNoBlankLine (hang 7 e.cause ++ "\n").toList :=
      hasNoBlankLine_hang_append (by decide) e.cause (by decide)
    have hline : HasNoBlankLine ("\n    1: " ++ (hang 7 e.cause ++ "\n")).toList :=
      hasNoBlankLine_string_append (by decide) (by decide) hcause
    exact hasNoBlankLine_string_append (by decide) (by decide)
      (hasNoBlankLine_hang_append (by decide) e.message hline)
  unfold evaluateFailure at h
  rw [hfirst] at h
  simp only [String.append_assoc] at h
  obtain ⟨hformula, hcauses⟩ := eq_of_report_eq (hbody e) (hbody e') h
  rw [String.append_right_inj, hsecond, String.append_assoc, String.append_assoc] at hcauses
  refine ⟨hformula, eq_of_hang_append ?_ ?_ hcauses⟩
  all_goals simp [List.replicate_succ]

theorem eq_of_tokenizeFailure_eq {formula formula' : String} {e e' : LexError}
    (h : tokenizeFailure formula e = tokenizeFailure formula' e') :
    formula = formula' ∧ e.message = e'.message := by
  have hbody (e : LexError) : HasNoBlankLine (hang 4 e.message ++ "\n").toList :=
    hasNoBlankLine_hang_append (by decide) e.message (by decide)
  unfold tokenizeFailure at h
  simp only [String.append_assoc] at h
  obtain ⟨hformula, hcauses⟩ := eq_of_report_eq (hbody e) (hbody e') h
  rw [← String.append_empty (s := "\n")] at hcauses
  exact ⟨hformula, eq_of_hang_append (by decide) (by decide) hcauses⟩

/-- No two failures of formulas have the same report. -/
theorem evaluateFailure_inj {formula formula' : String} {e e' : FormulaError}
    (he : ∃ source, Formula.calculate source = .error e)
    (he' : ∃ source, Formula.calculate source = .error e')
    (h : evaluateFailure formula e = evaluateFailure formula' e') :
    formula = formula' ∧ e = e' := by
  obtain ⟨source, hsource⟩ := he
  obtain ⟨source', hsource'⟩ := he'
  obtain ⟨hformula, hmessage⟩ := eq_of_evaluateFailure_eq h
  exact ⟨hformula, FormulaError.eq_of_message_eq (Formula.blamesQuote_of_calculate hsource)
    (Formula.blamesQuote_of_calculate hsource') hmessage⟩

theorem tokenizeFailure_inj {formula formula' : String} {e e' : LexError}
    (he : ∃ source, .error e ∈ tokenize source) (he' : ∃ source, .error e' ∈ tokenize source)
    (h : tokenizeFailure formula e = tokenizeFailure formula' e') :
    formula = formula' ∧ e = e' := by
  obtain ⟨source, hsource⟩ := he
  obtain ⟨source', hsource'⟩ := he'
  obtain ⟨hformula, hmessage⟩ := eq_of_tokenizeFailure_eq h
  exact ⟨hformula, LexError.eq_of_message_eq (blamesQuote_of_mem_tokenize hsource)
    (blamesQuote_of_mem_tokenize hsource') hmessage⟩

end CommandLine

end CellFormula
