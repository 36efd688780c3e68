import CellFormula.Expr.Basic
import CellFormula.Token.Basic

/-! # Reading expressions from tokens

From the loosest to the tightest: comparisons, `&`, `+` and `-`, `*` and `/`, `^`, signs, and then
literals, groups and arrays. Operators of one tier associate to the left. Tokens are taken one at a
time, and the parser looks one token ahead.
-/

namespace CellFormula

/-- The token looked at, and the items that have not been taken yet. -/
structure Cursor where
  current : Option Token
  pending : List TokenItem

/-- A parser moves the cursor. Where it fails it leaves the cursor where it was by then. -/
abbrev Parser := EStateM FormulaError Cursor

namespace Cursor

/-- The operator looked at, if it belongs to the given tier. -/
def operator? (cursor : Cursor) (tier : Nat) : Option Operator :=
  match cursor.current with
  | some ⟨.operator op, _, _⟩ => if op.tier = tier then some op else none
  | _ => none

/-- The sign looked at, with its position. -/
def sign? (cursor : Cursor) : Option (Sign × Nat) :=
  match cursor.current with
  | some ⟨.operator op, _, position⟩ => op.sign?.map fun sign => (sign, position)
  | _ => none

end Cursor

namespace Parser

/-- Take the next item, and give the token that was looked at before. An error among the items
ends the parse. -/
def advance : Parser (Option Token) := fun cursor =>
  match cursor.pending with
  | [] => .ok cursor.current ⟨none, []⟩
  | .ok token :: rest => .ok cursor.current ⟨some token, rest⟩
  | .error e :: rest => .error (.lex e) ⟨cursor.current, rest⟩

def fail {α : Type} (e : ParseError) : Parser α :=
  throw (.parse e)

/-- Refuse a token, or the end. -/
def refuse {α : Type} : Option Token → Parser α
  | some token => fail (.unexpectedToken token.text token.position)
  | none => fail .unexpectedEnd

/-- Move past a token of the given kind. -/
def expect (kind : TokenKind) : Parser Unit := do
  match (← get).current with
  | some token =>
    if token.kind = kind then
      let _ ← advance
      return ()
    else
      refuse (some token)
  | none => refuse none

/-- Extend `left` by operators of one tier and their operands. The number of rounds has to be at
least the number of tokens ahead. -/
def rounds (tier : Nat) (operand : Parser Expr) : Nat → Expr → Parser Expr
  | 0, left => return left
  | n + 1, left => do
    match (← get).operator? tier with
    | none => return left
    | some op =>
      let _ ← advance
      let right ← operand
      rounds tier operand n (.binary op left right)

/-- Operands joined by the operators of one tier. -/
def chain (bound : Nat) (operand : Parser Expr) (tier : Nat) : Parser Expr := do
  let left ← operand
  rounds tier operand bound left

/-- Operands joined by operators of any tier, the tightest first. -/
def tiers (bound : Nat) (operand : Parser Expr) : Parser Expr :=
  [5, 4, 3, 2, 1].foldl (chain bound) operand

/-- The elements of an array behind the first one, with the closing brace. The number of rounds has
to be at least the number of tokens ahead. -/
def elements (element : Parser Expr) : Nat → Parser (List Expr)
  | 0 => do refuse (← get).current
  | n + 1 => do
    match (← get).current with
    | some ⟨.comma, _, _⟩ =>
      let _ ← advance
      let e ← element
      let rest ← elements element n
      return e :: rest
    | some ⟨.rightBrace, _, _⟩ =>
      let _ ← advance
      return []
    | other => refuse other

/-- Go one nesting level deeper, if there is one. -/
def nested (deeper : Option (Parser Expr)) (position : Nat)
    (inside : Parser Expr → Parser Expr) : Parser Expr :=
  match deeper with
  | none => fail (.nestingTooDeep position)
  | some inner => inside inner

/-- An operand behind its sign. -/
def signed (sign : Sign) (inner : Parser Expr) : Parser Expr := do
  let e ← inner
  return .unary sign e

/-- The inside of a group, with the closing parenthesis. -/
def group (bound : Nat) (inner : Parser Expr) : Parser Expr := do
  let e ← tiers bound inner
  expect .rightParen
  return .group e

/-- The inside of an array, with the closing brace. -/
def array (bound : Nat) (inner : Parser Expr) : Parser Expr := do
  let first ← tiers bound inner
  let rest ← elements (tiers bound inner) bound
  return .array (first :: rest)

/-- The operand that a token starts, once it has been moved past. -/
def startedBy (bound : Nat) (deeper : Option (Parser Expr)) (token : Token) : Parser Expr :=
  match token.kind with
  | .literal s => return .literal (.scalar s)
  | .leftParen => nested deeper token.position (group bound)
  | .leftBrace => nested deeper token.position (array bound)
  | _ => refuse (some token)

/-- A literal, a group or an array. The token is taken before its kind is looked at. -/
def primary (bound : Nat) (deeper : Option (Parser Expr)) : Parser Expr := do
  match ← advance with
  | none => refuse none
  | some token => startedBy bound deeper token

/-- An operand with its signs, given how operands are read one nesting level deeper. -/
def operandOver (bound : Nat) (deeper : Option (Parser Expr)) : Parser Expr := do
  match (← get).sign? with
  | some (sign, position) =>
    let _ ← advance
    nested deeper position (signed sign)
  | none => primary bound deeper

/-- An operand in which at most `depth` signs, groups and arrays are nested. -/
def operand (bound : Nat) : Nat → Parser Expr
  | 0 => operandOver bound none
  | depth + 1 => operandOver bound (some (operand bound depth))

/-- A whole formula. -/
def formula (bound depth : Nat) : Parser Expr := do
  let _ ← advance
  let e ← tiers bound (operand bound depth)
  match (← get).current with
  | some token => refuse (some token)
  | none => return e

end Parser

/-- The deepest nesting of signs, groups and arrays. -/
def maxNesting : Nat := 64

namespace Expr

/-- Parse a sequence of tokens in which at most `depth` signs, groups and arrays are nested. The
answer also tells how far the parser went. -/
def parseWithin (depth : Nat) (items : List TokenItem) :
    EStateM.Result FormulaError Cursor Expr :=
  (Parser.formula items.length depth).run ⟨none, items⟩

def parse (items : List TokenItem) : Except FormulaError Expr :=
  match parseWithin maxNesting items with
  | .ok e _ => .ok e
  | .error e _ => .error e

/-- How many items the parser takes. -/
def pulled (items : List TokenItem) : Nat :=
  match parseWithin maxNesting items with
  | .ok _ cursor => items.length - cursor.pending.length
  | .error _ cursor => items.length - cursor.pending.length

end Expr

end CellFormula
