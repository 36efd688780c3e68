import CellFormula.Proofs.CommandLine.Listing
import CellFormula.Proofs.CommandLine.Reports

/-! # What a run leaves behind

Both commands go through a list and print a line for each item, up to the first one that fails. So
the lines before the failure stay, and nothing behind it is ever looked at.
-/

namespace CellFormula

namespace CommandLine

/-! ## Lines up to the first failure -/

/-- The text of lines that are all ended. -/
def linesText (lines : List String) : String :=
  String.join (lines.map (· ++ "\n"))

theorem linesText_cons (line : String) (lines : List String) :
    linesText (line :: lines) = line ++ "\n" ++ linesText lines := by
  simp [linesText, String.join_cons]

/-- Print lines before everything else. -/
def Outcome.withLines (lines : List String) (outcome : Outcome) : Outcome :=
  { outcome with stdout := linesText lines ++ outcome.stdout }

section UpToFailure

variable {α β ε : Type} (read : α → Except ε β) (line : β → String) (message : α → ε → String)

/-- Print a line for each item that can be read, and the message of the first one that cannot. -/
def upToFailure : List α → Outcome
  | [] => .success
  | item :: rest =>
    match read item with
    | .ok b => .withLine (line b) (upToFailure rest)
    | .error e => .failure (message item e)

/-- The items before the first failure, with what they are read as. -/
theorem exists_readable_part (items : List α) :
    ∃ (done : List α) (bs : List β) (rest : List α), items = done ++ rest ∧
      done.map read = bs.map .ok ∧ ∀ item ∈ rest.head?, ∃ e, read item = .error e := by
  induction items with
  | nil => exact ⟨[], [], [], rfl, rfl, nofun⟩
  | cons item items ih =>
      cases hitem : read item with
      | error e => exact ⟨[], [], item :: items, rfl, rfl, by simpa using ⟨e, hitem⟩⟩
      | ok b =>
          obtain ⟨done, bs, rest, rfl, hdone, hrest⟩ := ih
          exact ⟨item :: done, b :: bs, rest, rfl, by simp [hitem, hdone], hrest⟩

/-- Items that can be read add their lines to what the rest leaves behind. -/
theorem upToFailure_append {done : List α} {bs : List β} (h : done.map read = bs.map .ok)
    (rest : List α) :
    upToFailure read line message (done ++ rest) =
      (upToFailure read line message rest).withLines (bs.map line) := by
  induction done generalizing bs with
  | nil =>
      obtain rfl : bs = [] := by simpa using h.symm
      simp [Outcome.withLines, linesText]
  | cons item done ih =>
      cases bs with
      | nil => simp at h
      | cons b bs =>
          simp only [List.map_cons, List.cons.injEq] at h
          rw [List.cons_append, upToFailure, h.1, ih h.2]
          simp [Outcome.withLine, Outcome.withLines, linesText_cons, String.append_assoc]

theorem upToFailure_of_readable {items : List α} {bs : List β} (h : items.map read = bs.map .ok) :
    upToFailure read line message items = ⟨0, linesText (bs.map line), ""⟩ := by
  have happend := upToFailure_append read line message h []
  rw [List.append_nil] at happend
  rw [happend]
  simp [upToFailure, Outcome.success, Outcome.withLines]

/-- The first failure decides, whatever stands behind it. -/
theorem upToFailure_of_failure {done : List α} {bs : List β} (h : done.map read = bs.map .ok)
    {item : α} {e : ε} (hitem : read item = .error e) (later : List α) :
    upToFailure read line message (done ++ item :: later) =
      ⟨1, linesText (bs.map line), message item e⟩ := by
  rw [upToFailure_append read line message h]
  simp [upToFailure, hitem, Outcome.failure, Outcome.withLines]

/-- A run succeeds if and only if no item is left behind those that can be read. -/
theorem exitCode_upToFailure {done : List α} {bs : List β} (h : done.map read = bs.map .ok)
    {rest : List α} (hrest : ∀ item ∈ rest.head?, ∃ e, read item = .error e) :
    (upToFailure read line message (done ++ rest)).exitCode = 0 ↔ rest = [] := by
  cases rest with
  | nil => simp [upToFailure_of_readable read line message h]
  | cons item later =>
      obtain ⟨e, he⟩ := hrest item rfl
      simp [upToFailure_of_failure read line message h he]

end UpToFailure

theorem evaluateAll_eq_upToFailure (options : Options) (formulas : List String) :
    evaluateAll options formulas =
      upToFailure Formula.calculate (valueLine options) evaluateFailure formulas := by
  induction formulas with
  | nil => rfl
  | cons formula rest ih =>
      rw [evaluateAll, upToFailure, ih]
      cases Formula.calculate formula <;> rfl

theorem listTokens_eq_upToFailure (formula : String) (items : List TokenItem) :
    listTokens formula items =
      upToFailure id tokenLine (fun _ e => tokenizeFailure formula e) items := by
  induction items with
  | nil => rfl
  | cons item rest ih =>
      cases item with
      | ok token => rw [listTokens, upToFailure, ih, id]
      | error e => rfl

end CommandLine

/-! ## The first scalar of a value -/

namespace Value

mutual

/-- The scalars of a value from left to right, out of all its lists. -/
def leaves : Value → List Scalar
  | scalar s => [s]
  | list items => leavesEach items

def leavesEach : List Value → List Scalar
  | [] => []
  | item :: rest => item.leaves ++ leavesEach rest

end

/-- Where every list has elements, the first scalar is the leftmost one. -/
theorem IsWellFormed.exists_leaves {v : Value} (h : v.IsWellFormed) :
    ∃ s more, v.leaves = s :: more ∧ v.firstScalar = .ok s := by
  induction h with
  | @scalar s plain => exact ⟨s, [], by rw [leaves], by rw [firstScalar]⟩
  | @list items nonempty each ih =>
      cases items with
      | nil => exact absurd rfl nonempty
      | cons item rest =>
          obtain ⟨s, more, hleaves, hfirst⟩ := ih item List.mem_cons_self
          refine ⟨s, more ++ leavesEach rest, ?_, by rw [firstScalar, hfirst]⟩
          rw [leaves, leavesEach, hleaves, List.cons_append]

end Value

theorem Formula.isWellFormed_of_calculate {source : String} {v : Value}
    (h : calculate source = .ok v) : v.IsWellFormed := by
  cases hparse : parse source with
  | error e =>
      rw [calculate, hparse] at h
      cases h
  | ok e =>
      rw [calculate, hparse] at h
      cases h
      exact Expr.evaluate_isWellFormed (isRead_of_parse hparse).1

namespace CommandLine

/-! ## Commands from arguments -/

/-- The flags that set the options. -/
def Options.flags (options : Options) : List String :=
  (if options.json then ["--json"] else []) ++ (if options.coherent then ["--coherent"] else [])

theorem splitFlags_flags (options : Options) (operands : List String) :
    splitFlags (options.flags ++ "--" :: operands) = (options.flags, operands) := by
  obtain ⟨json, coherent⟩ := options
  cases json <;> cases coherent <;> simp [Options.flags, splitFlags, isFlag]

theorem foldlM_setFlag?_flags (options : Options) :
    options.flags.foldlM Options.setFlag? ⟨false, false⟩ = some options := by
  obtain ⟨json, coherent⟩ := options
  cases json <;> cases coherent <;> decide

theorem run_evaluate (options : Options) {formulas : List String} (h : formulas ≠ []) :
    run ("eval" :: (options.flags ++ "--" :: formulas)) =
      (Command.evaluate options formulas).run := by
  have hempty : formulas.isEmpty = false := by simpa using h
  have hcommand : Command.ofArgs? ("eval" :: (options.flags ++ "--" :: formulas)) =
      Command.evaluate? (options.flags ++ "--" :: formulas) := rfl
  rw [run, hcommand, Command.evaluate?, splitFlags_flags]
  simp only [hempty, foldlM_setFlag?_flags, Bool.false_eq_true, if_false, Option.map_some]

theorem run_tokens (formula : String) :
    run ["tokens", "--", formula] = (Command.tokens formula).run :=
  rfl

/-! ## Main statement -/

/-- The lines of all formulas before the first one that cannot be read are printed, and nothing
else; that formula is reported with its error, and those behind it make no difference. Where only
the first scalar of a value is asked for, it is the leftmost one, as behind the sign `+`. Tokens are
listed up to the first error in the same way. Whatever a formula and its error contain, the report
shows which they are, and a line of the listing shows all of its token. -/
theorem run_keeps_output_before_failure :
    (∀ (options : Options) (formulas : List String),
      ∃ (done : List String) (values : List Value) (rest : List String),
        formulas = done ++ rest ∧ done.map Formula.calculate = values.map .ok ∧
        (∀ formula ∈ rest.head?, ∃ e, Formula.calculate formula = .error e) ∧
        ((Command.evaluate options formulas).run.exitCode = 0 ↔ rest = [])) ∧
    (∀ (options : Options) (done : List String) (values shown : List Value) (lines : List String),
      done.map Formula.calculate = values.map .ok →
      shown = values.map (fun v => if options.coherent then v.identity else v) →
      lines = shown.map (fun v => if options.json then (Tagged.ofValue v).json else v.display) →
      (Command.evaluate options done).run = ⟨0, linesText lines, ""⟩ ∧
      ∀ (formula : String) (e : FormulaError) (later : List String),
        Formula.calculate formula = .error e →
        (Command.evaluate options (done ++ formula :: later)).run =
          ⟨1, linesText lines, "Error: Failed to evaluate '" ++ formula ++
            "'\n\nCaused by:\n    0: " ++ hang 7 e.message ++ "\n    1: " ++ hang 7 e.cause ++
            "\n"⟩) ∧
    (∀ (formula : String) (v : Value), Formula.calculate formula = .ok v →
      ∃ s more, v.leaves = s :: more ∧ v.identity = .scalar s ∧ Sign.plus.apply v = .scalar s) ∧
    (∀ formula : String, ∃ (tokens : List Token) (rest : List TokenItem),
      tokenize formula = tokens.map .ok ++ rest ∧ (∀ item ∈ rest.head?, ∃ e, item = .error e) ∧
      ((Command.tokens formula).run.exitCode = 0 ↔ rest = [])) ∧
    (∀ (formula : String) (tokens : List Token) (lines : List String),
      lines = tokens.map (fun token => token.position.repr ++ "\t" ++ Escaped.quote token.text ++
        "\t" ++ token.kind.display) →
      (tokenize formula = tokens.map .ok →
        (Command.tokens formula).run = ⟨0, linesText lines, ""⟩) ∧
      ∀ (e : LexError) (later : List TokenItem),
        tokenize formula = tokens.map .ok ++ .error e :: later →
        (Command.tokens formula).run = ⟨1, linesText lines, "Error: Failed to tokenize '" ++
          formula ++ "'\n\nCaused by:\n    " ++ hang 4 e.message ++ "\n"⟩) ∧
    -- A message on one line is shown as it stands, and any other can be told from its report.
    (∀ (indent : Nat) (text : String), '\n' ∉ text.toList → hang indent text = text) ∧
    (∀ (formula formula' : String) (e e' : FormulaError),
      (∃ source, Formula.calculate source = .error e) →
      (∃ source, Formula.calculate source = .error e') →
      evaluateFailure formula e = evaluateFailure formula' e' → formula = formula' ∧ e = e') ∧
    (∀ (formula formula' : String) (e e' : LexError), (∃ source, .error e ∈ tokenize source) →
      (∃ source, .error e' ∈ tokenize source) →
      tokenizeFailure formula e = tokenizeFailure formula' e' → formula = formula' ∧ e = e') ∧
    (∀ token token' : Token, (∃ source, .ok token ∈ tokenize source) →
      (∃ source, .ok token' ∈ tokenize source) → tokenLine token = tokenLine token' →
      token = token') ∧
    -- These are the runs that the arguments ask for.
    (∀ (options : Options) (formulas : List String), formulas ≠ [] →
      run ("eval" :: (options.flags ++ "--" :: formulas)) =
        (Command.evaluate options formulas).run) ∧
    ∀ formula, run ["tokens", "--", formula] = (Command.tokens formula).run := by
  refine ⟨?_, ?_, ?_, ?_, ?_, fun indent text h => hang_of_notMem h indent,
    fun formula formula' e e' => evaluateFailure_inj,
    fun formula formula' e e' => tokenizeFailure_inj, fun token token' => tokenLine_inj,
    fun options formulas h => run_evaluate options h, run_tokens⟩
  · intro options formulas
    obtain ⟨done, values, rest, rfl, hdone, hrest⟩ :=
      exists_readable_part Formula.calculate formulas
    refine ⟨done, values, rest, rfl, hdone, hrest, ?_⟩
    rw [Command.run, evaluateAll_eq_upToFailure]
    exact exitCode_upToFailure _ _ _ hdone hrest
  · rintro options done values shown lines hdone rfl rfl
    rw [List.map_map]
    simp only [Command.run, evaluateAll_eq_upToFailure]
    exact ⟨upToFailure_of_readable _ _ _ hdone, fun formula e later he =>
      upToFailure_of_failure _ _ _ hdone he later⟩
  · intro formula v h
    obtain ⟨s, more, hleaves, hfirst⟩ := (Formula.isWellFormed_of_calculate h).exists_leaves
    have hidentity : v.identity = .scalar s := by
      rw [Value.identity, hfirst]
      rfl
    exact ⟨s, more, hleaves, hidentity, hidentity⟩
  · intro formula
    obtain ⟨done, tokens, rest, hitems, hdone, hrest⟩ :=
      exists_readable_part (id : TokenItem → TokenItem) (tokenize formula)
    refine ⟨tokens, rest, by rw [hitems, ← hdone, List.map_id], hrest, ?_⟩
    rw [Command.run, listTokens_eq_upToFailure, hitems]
    exact exitCode_upToFailure _ _ _ hdone hrest
  · rintro formula tokens lines rfl
    have htokens : (tokens.map Except.ok : List TokenItem).map id = tokens.map .ok := List.map_id _
    simp only [Command.run, listTokens_eq_upToFailure]
    refine ⟨fun hitems => ?_, fun e later hitems => ?_⟩
    · rw [hitems]
      exact upToFailure_of_readable _ _ _ htokens
    · rw [hitems]
      exact upToFailure_of_failure _ _ _ htokens rfl later

/-- A list whose first element is a list is reduced to a text, the second formula fails, and the
third is not looked at. A listing ends at a text without end. -/
theorem run_keeps_output_before_failure_reduced :
    run ["eval", "--coherent", "--", "=\x7b\x7b\"a\"\x7d,1\x7d", "=2+", "=3"] =
      ⟨1, "a\n", "Error: Failed to evaluate '=2+'\n\nCaused by:\n" ++
        "    0: Parse error: Unexpected end of formula\n    1: Unexpected end of formula\n"⟩ ∧
    run ["tokens", "--", "1&\"x"] =
      ⟨1, "0\t\"1\"\t1\n1\t\"&\"\t&\n", "Error: Failed to tokenize '1&\"x'\n\nCaused by:\n" ++
        "    Unterminated string starting at position 2\n"⟩ := by
  obtain ⟨-, hevaluate, -, -, htokens, -, -, -, -, heval, hlist⟩ := run_keeps_output_before_failure
  have hfirst : Formula.calculate "=\x7b\x7b\"a\"\x7d,1\x7d" =
      .ok (.list [.list [.text "a"], .number 1]) := by decide +kernel
  have hsecond : Formula.calculate "=2+" = .error (.parse .unexpectedEnd) := by decide +kernel
  constructor
  · have hdone : ["=\x7b\x7b\"a\"\x7d,1\x7d"].map Formula.calculate =
        [.list [.list [.text "a"], .number 1]].map .ok := by
      rw [List.map_singleton, hfirst, List.map_singleton]
    have hrun := (hevaluate ⟨false, true⟩ _ _ _ _ hdone rfl rfl).2 "=2+" _ ["=3"] hsecond
    refine (heval ⟨false, true⟩ ["=\x7b\x7b\"a\"\x7d,1\x7d", "=2+", "=3"] (by simp)).trans
      (hrun.trans ?_)
    decide +kernel
  · have hitems : tokenize "1&\"x" =
        [.ok ⟨.literal (.number 1), "1", 0⟩, .ok ⟨.operator .concat, "&", 1⟩] ++
          [.error ⟨.unterminatedString, "\"", 2⟩] := by decide +kernel
    have hrun := (htokens "1&\"x" [⟨.literal (.number 1), "1", 0⟩, ⟨.operator .concat, "&", 1⟩]
      _ rfl).2 _ [] hitems
    rw [hlist, hrun]
    decide +kernel

end CommandLine

end CellFormula
