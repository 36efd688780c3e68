import CellFormula.Escaped
import CellFormula.Formula

/-! # The command line

A command is read from the arguments, and running it gives the exit code and all that is written.
-/

namespace CellFormula.CommandLine

/-- How the values of formulas are printed. -/
structure Options where
  /-- As JSON with tags. -/
  json : Bool
  /-- Only the first scalar of a list. -/
  coherent : Bool
deriving DecidableEq, Repr

inductive Command where
  | version
  | evaluate (options : Options) (formulas : List String)
  | tokens (formula : String)
deriving DecidableEq, Repr

/-! ## Reading the arguments -/

/-- Arguments that start with a hyphen are flags; a hyphen alone is not. -/
def isFlag (arg : String) : Bool :=
  match arg.toList with
  | '-' :: _ :: _ => true
  | _ => false

/-- The flags and the other arguments, each in order. No flags are looked for behind `--`. -/
def splitFlags : List String → List String × List String
  | [] => ([], [])
  | arg :: rest =>
    if arg = "--" then ([], rest)
    else
      let (flags, operands) := splitFlags rest
      if isFlag arg then (arg :: flags, operands) else (flags, arg :: operands)

namespace Options

/-- Set an option by its letter. No option may be set twice. -/
def setLetter? (options : Options) : Char → Option Options
  | 'j' => if options.json then none else some { options with json := true }
  | 'c' => if options.coherent then none else some { options with coherent := true }
  | _ => none

/-- Set the options of a flag: a word behind two hyphens, or letters behind one. -/
def setFlag? (options : Options) (flag : String) : Option Options :=
  if flag = "--json" then options.setLetter? 'j'
  else if flag = "--coherent" then options.setLetter? 'c'
  else
    match flag.toList with
    | '-' :: letters => letters.foldlM setLetter? options
    | _ => none

end Options

namespace Command

def evaluate? (args : List String) : Option Command :=
  let (flags, formulas) := splitFlags args
  if formulas.isEmpty then none
  else (flags.foldlM Options.setFlag? ⟨false, false⟩).map fun options => evaluate options formulas

def tokens? (args : List String) : Option Command :=
  match splitFlags args with
  | ([], [formula]) => some (tokens formula)
  | _ => none

/-- The version is asked for by a word, or by a letter right behind one hyphen. Whatever follows
the letter is not read. -/
def asksVersion (arg : String) : Bool :=
  arg = "--version" || ['-', 'V'].isPrefixOf arg.toList

/-- The command that the arguments name. -/
def ofArgs? : List String → Option Command
  | [] => none
  | arg :: rest =>
    if asksVersion arg then some version
    else if arg = "eval" ∨ arg = "calc" then evaluate? rest
    else if arg = "tokens" then tokens? rest
    else none

end Command

/-! ## Running a command -/

/-- What a run leaves behind. -/
structure Outcome where
  exitCode : Nat
  stdout : String
  stderr : String
deriving DecidableEq, Repr

namespace Outcome

def success : Outcome :=
  ⟨0, "", ""⟩

def failure (message : String) : Outcome :=
  ⟨1, "", message⟩

/-- Print a line before everything else. -/
def withLine (line : String) (outcome : Outcome) : Outcome :=
  { outcome with stdout := line ++ "\n" ++ outcome.stdout }

end Outcome

/-- Indent every line but the first. -/
def hang (indent : Nat) (text : String) : String :=
  String.ofList
    (text.toList.flatMap fun c => if c = '\n' then '\n' :: List.replicate indent ' ' else [c])

/-- A formula that cannot be evaluated is reported with the stage that failed and the cause. -/
def evaluateFailure (formula : String) (e : FormulaError) : String :=
  "Error: Failed to evaluate '" ++ formula ++ "'\n\nCaused by:\n    0: " ++ hang 7 e.message ++
    "\n    1: " ++ hang 7 e.cause ++ "\n"

def tokenizeFailure (formula : String) (e : LexError) : String :=
  "Error: Failed to tokenize '" ++ formula ++ "'\n\nCaused by:\n    " ++ hang 4 e.message ++ "\n"

/-- The line printed for the value of a formula. -/
def valueLine (options : Options) (v : Value) : String :=
  let shown := if options.coherent then v.identity else v
  if options.json then (Tagged.ofValue shown).json else shown.display

/-- Formulas are evaluated in order, up to the first one that cannot be read. -/
def evaluateAll (options : Options) : List String → Outcome
  | [] => .success
  | formula :: rest =>
    match Formula.calculate formula with
    | .ok v => .withLine (valueLine options v) (evaluateAll options rest)
    | .error e => .failure (evaluateFailure formula e)

/-- The line printed for a token: position, source text and form, with tabs between them. -/
def tokenLine (token : Token) : String :=
  token.position.repr ++ "\t" ++ Escaped.quote token.text ++ "\t" ++ token.kind.display

/-- Tokens are listed in order, up to the first error. -/
def listTokens (formula : String) : List TokenItem → Outcome
  | [] => .success
  | .ok token :: rest => .withLine (tokenLine token) (listTokens formula rest)
  | .error e :: _ => .failure (tokenizeFailure formula e)

def versionLine : String := "sheetcalc 0.1.0"

def Command.run : Command → Outcome
  | version => .withLine versionLine .success
  | evaluate options formulas => evaluateAll options formulas
  | tokens formula => listTokens formula (tokenize formula)

/-- Arguments that name no command. -/
def badUsage : Outcome :=
  ⟨2, "", "Usage: sheetcalc eval [--json] [--coherent] FORMULA...\n" ++
    "       sheetcalc tokens FORMULA\n"⟩

def run (args : List String) : Outcome :=
  match Command.ofArgs? args with
  | some command => command.run
  | none => badUsage

end CellFormula.CommandLine
