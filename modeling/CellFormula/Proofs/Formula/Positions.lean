import CellFormula.Formula
import CellFormula.Proofs.Lexer.WhiteSpace

/-! # Positions in the errors of a formula

An error points at the text that it reports. What stands around a formula, white space and an `=`,
moves the positions and changes nothing else about its tokens, its value and its errors.
-/

namespace CellFormula

/-- Results can be compared, whether they are values or errors. -/
instance Formula.decEqResult : DecidableEq (Except FormulaError Value)
  | .ok v, .ok w => decidable_of_iff (v = w) (Except.ok.injEq v w).symm.to_iff
  | .error e, .error f => decidable_of_iff (e = f) (Except.error.injEq e f).symm.to_iff
  | .ok _, .error _ => .isFalse nofun
  | .error _, .ok _ => .isFalse nofun

/-! ## Items in the source -/

theorem StandsAt.isValid {source piece : String} {offset : Nat} (h : StandsAt source piece offset) :
    (⟨offset⟩ : String.Pos.Raw).IsValid source := by
  obtain ⟨before, after, rfl, rfl⟩ := h
  exact String.Pos.Raw.isValid_iff_exists_append.mpr
    ⟨before, piece ++ after, String.append_assoc, rfl⟩

/-- The piece stands at the position in the formula proper. -/
structure IsFoundAt (source piece : String) (position : Nat) : Prop where
  behind_start : ∃ start, IsBodyStart source start ∧ start ≤ position
  before_end : position < source.utf8ByteSize
  boundary : (⟨position⟩ : String.Pos.Raw).IsValid source
  stands : StandsAt source piece position
  nonempty : piece ≠ ""

theorem isFoundAt_of_mem_tokenize {source : String} {item : TokenItem}
    (h : item ∈ tokenize source) : IsFoundAt source item.text item.position := by
  obtain ⟨behind, hle, htile⟩ :=
    (TokenStream.isOn_ofSource source).tiles_items.exists_isTile h
  exact ⟨⟨_, TokenStream.isBodyStart_ofSource source, Nat.le_trans hle htile.start_le⟩,
    htile.position_lt, htile.stands.isValid, htile.stands, htile.nonempty⟩

/-! ## The text that an error reports -/

/-- The piece is what the error is about: the text that it names, the quote that opens a text, or
the mark that opens one nesting too many. -/
def FormulaError.Reports : FormulaError → String → Prop
  | lex ⟨.unterminatedString, _, _⟩, piece => piece = "\""
  | lex ⟨.unexpectedCharacter, found, _⟩, piece => piece = found ∧ found.length = 1
  | lex ⟨_, found, _⟩, piece => piece = found
  | parse (.unexpectedToken found _), piece => piece = found
  | parse (.nestingTooDeep _), piece => piece ∈ ["(", "\x7b", "+", "-"]
  | parse .unexpectedEnd, _ => False

theorem FormulaError.position?_eq_none_iff {e : FormulaError} :
    e.position? = none ↔ e = .parse .unexpectedEnd := by
  rcases e with e | ⟨found, position⟩ | _ | position <;> simp [position?]

namespace Lexeme

variable {c : Char} {cs : List Char} {fault : LexFault}

theorem outcome_ne_error_of_symbol? {lexeme : Lexeme} (h : symbol? c cs = some lexeme) :
    lexeme.outcome ≠ .error fault := by
  unfold symbol? at h
  split at h
  · cases h
    exact nofun
  · obtain ⟨kind, -, rfl⟩ := Option.map_eq_some_iff.mp h
    exact nofun

theorem text_eq_of_outcome (h : (text cs).outcome = .error fault) :
    text cs = ⟨1, .error .unterminatedString⟩ := by
  unfold text at h ⊢
  split at h
  · cases h
  · rfl

theorem fault_eq_of_number (h : (number cs).outcome = .error fault) :
    fault = .malformedNumber := by
  simp only [number] at h
  split at h <;> cases h
  rfl

theorem fault_eq_of_errorLiteral (h : (errorLiteral cs).outcome = .error fault) :
    fault = .unknownError := by
  unfold errorLiteral at h
  split at h <;> cases h
  rfl

theorem fault_eq_of_word (h : (word cs).outcome = .error fault) :
    fault = .unknownIdentifier := by
  simp only [word] at h
  split at h <;> cases h
  rfl

/-- A text without end is blamed on its quote, an unexpected character on itself, and every other
fault on all that was read. -/
theorem reports_of_outcome (position : Nat) (h : (ofChars c cs).outcome = .error fault) :
    let found := String.ofList ((c :: cs).take (ofChars c cs).length)
    FormulaError.Reports (.lex ⟨fault, found, position⟩) found := by
  rcases ofChars_cases c cs with hsymbol | ⟨rfl, heq⟩ | ⟨-, heq⟩ | heq | heq | heq
  · exact absurd h (outcome_ne_error_of_symbol? hsymbol)
  · rw [heq] at h ⊢
    have htext := text_eq_of_outcome h
    rw [htext] at h ⊢
    cases h
    rfl
  · rw [heq] at h
    cases fault_eq_of_number h
    rfl
  · rw [heq] at h
    cases fault_eq_of_errorLiteral h
    rfl
  · rw [heq] at h
    cases fault_eq_of_word h
    rfl
  · rw [heq] at h ⊢
    cases h
    exact ⟨rfl, by simp⟩

end Lexeme

theorem TokenStream.reports_of_mem_items {stream : TokenStream} {e : LexError}
    (h : .error e ∈ stream.items) : FormulaError.Reports (.lex e) e.found := by
  obtain ⟨c, cs, start, ⟨kind, -, hitem⟩ | ⟨fault, hfault, hitem⟩⟩ := exists_lexeme_of_mem_items h
  · cases hitem
  · cases hitem
    exact Lexeme.reports_of_outcome start hfault

/-- What opens something is written with one of four marks. -/
theorem Spells.mem_of_opens {taken : List Char} {kind : TokenKind} (h : Spells taken kind)
    (hopens : kind.opens = true) : String.ofList taken ∈ ["(", "\x7b", "+", "-"] := by
  cases h with
  | single single_eq =>
      unfold Lexeme.single? at single_eq
      split at single_eq <;> cases single_eq
      all_goals first | exact absurd hopens (by decide) | decide
  | pair pair_eq =>
      unfold Lexeme.pair? at pair_eq
      split at pair_eq <;> cases pair_eq <;> cases hopens
  | text => cases hopens
  | number => cases hopens
  | error => cases hopens
  | boolean => cases hopens

namespace Formula

/-- A formula that is read has a value. -/
theorem calculate_eq_error_iff {source : String} {e : FormulaError} :
    calculate source = .error e ↔ parse source = .error e := by
  rw [calculate]
  cases parse source <;> simp [Except.map]

/-- The text that an error reports stands in the formula at the position of the error. Only a
formula that ends too early has no such position. -/
theorem parse_error_points_at_text {source : String} {e : FormulaError}
    (h : parse source = .error e) :
    (e.position? = none ↔ e = .parse .unexpectedEnd) ∧
      ∀ position, e.position? = some position →
        ∃ piece, IsFoundAt source piece position ∧ e.Reports piece := by
  refine ⟨FormulaError.position?_eq_none_iff, ?_⟩
  intro position hposition
  cases Expr.blames_of_parse h with
  | item mem =>
      cases hposition
      exact ⟨_, isFoundAt_of_mem_tokenize mem, TokenStream.reports_of_mem_items mem⟩
  | token mem =>
      cases hposition
      exact ⟨_, isFoundAt_of_mem_tokenize mem, rfl⟩
  | @depth token mem opens =>
      cases hposition
      have hspells : Spells token.text.toList token.kind := TokenStream.spells_of_mem_items mem
      have hmem := hspells.mem_of_opens opens
      rw [String.ofList_toList] at hmem
      exact ⟨_, isFoundAt_of_mem_tokenize mem, hmem⟩
  | ending => cases hposition

/-- An error literal that there is none of, behind a no-break space, the `=` and a text with a
letter of two bytes. -/
theorem parse_error_points_at_text_literal :
    parse "\u00a0=\"é\"&(#Ä/0)" = .error (.lex ⟨.unknownError, "#Ä/0", 9⟩) ∧
      IsFoundAt "\u00a0=\"é\"&(#Ä/0)" "#Ä/0" 9 := by
  have h : parse "\u00a0=\"é\"&(#Ä/0)" = .error (.lex ⟨.unknownError, "#Ä/0", 9⟩) :=
    calculate_eq_error_iff.mp (by decide +kernel)
  obtain ⟨piece, hfound, rfl⟩ := (parse_error_points_at_text h).2 9 rfl
  exact ⟨h, hfound⟩

/-! ## White space and `=` around a formula -/

theorem calculate_of_tokenize_shift {source source' : String} {n : Nat}
    (h : tokenize source' = (tokenize source).map (TokenItem.shift n)) :
    calculate source' = (calculate source).mapError (FormulaError.shift n) := by
  rw [calculate, parse, h, Expr.parse_shift, calculate, parse]
  cases Expr.parse (tokenize source) <;> rfl

/-- White space behind a formula changes nothing. White space before it and an `=` that is not
already there move its tokens and the position of its error, and change nothing else. -/
theorem calculate_surrounded (source w : String) (hw : IsBlank w) :
    (tokenize (w ++ source) = (tokenize source).map (TokenItem.shift w.utf8ByteSize) ∧
      calculate (w ++ source) =
        (calculate source).mapError (FormulaError.shift w.utf8ByteSize)) ∧
    (tokenize (source ++ w) = tokenize source ∧ calculate (source ++ w) = calculate source) ∧
    (source.toList.find? (!Unicode.isWhiteSpace ·) ≠ some '=' →
      tokenize ("=" ++ source) = (tokenize source).map (TokenItem.shift 1) ∧
        calculate ("=" ++ source) = (calculate source).mapError (FormulaError.shift 1)) := by
  have hbefore := tokenize_blank_append hw source
  have hbehind := tokenize_append_blank hw source
  refine ⟨⟨hbefore, calculate_of_tokenize_shift hbefore⟩, ⟨hbehind, ?_⟩, fun h => ?_⟩
  · rw [calculate, parse, hbehind, calculate, parse]
  · have hequals := tokenize_equals_append source h
    exact ⟨hequals, calculate_of_tokenize_shift hequals⟩

/-- A number without the digits of its exponent, with spaces of three bytes and of one around it. -/
theorem calculate_surrounded_exponent :
    calculate "\u2003 2*1e+" = .error (.lex ⟨.malformedNumber, "1e+", 6⟩) ∧
      calculate "2*1e+\u2003 " = .error (.lex ⟨.malformedNumber, "1e+", 2⟩) ∧
      calculate "=2*1e+" = .error (.lex ⟨.malformedNumber, "1e+", 3⟩) := by
  have h : calculate "2*1e+" = .error (.lex ⟨.malformedNumber, "1e+", 2⟩) := by decide +kernel
  obtain ⟨⟨-, hbefore⟩, ⟨-, hbehind⟩, hequals⟩ :=
    calculate_surrounded "2*1e+" "\u2003 " (by rw [IsBlank]; decide)
  rw [h] at hbefore hbehind hequals
  exact ⟨hbefore, hbehind, (hequals (by decide)).2⟩

end Formula

end CellFormula
