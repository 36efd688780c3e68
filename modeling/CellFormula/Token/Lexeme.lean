import CellFormula.Decimal.Numeral
import CellFormula.Token.Basic
import CellFormula.Unicode.Alphabetic
import CellFormula.Unicode.Numeric

/-! # The token at the head of a text

Nothing here depends on where the text stands in the formula.
-/

namespace CellFormula

/-- What stands at the head of a text: how many characters it takes, and the kind of token that
they are or why they are none. -/
structure Lexeme where
  length : Nat
  outcome : Except LexFault TokenKind

namespace Lexeme

/-- Tokens of one character. -/
def single? : Char → Option TokenKind
  | '+' => some (.operator (.arithmetic .add))
  | '-' => some (.operator (.arithmetic .subtract))
  | '*' => some (.operator (.arithmetic .multiply))
  | '/' => some (.operator (.arithmetic .divide))
  | '^' => some (.operator (.arithmetic .power))
  | '&' => some (.operator .concat)
  | '=' => some (.operator (.comparison .equal))
  | '<' => some (.operator (.comparison .less))
  | '>' => some (.operator (.comparison .greater))
  | '(' => some .leftParen
  | ')' => some .rightParen
  | '\x7b' => some .leftBrace
  | '\x7d' => some .rightBrace
  | ',' => some .comma
  | _ => none

/-- Tokens of two characters. -/
def pair? : Char → Char → Option TokenKind
  | '<', '=' => some (.operator (.comparison .lessEqual))
  | '<', '>' => some (.operator (.comparison .notEqual))
  | '>', '=' => some (.operator (.comparison .greaterEqual))
  | _, _ => none

/-- The longest operator or delimiter. -/
def symbol? (c : Char) (cs : List Char) : Option Lexeme :=
  match cs.head?.bind (pair? c) with
  | some kind => some ⟨2, .ok kind⟩
  | none => (single? c).map fun kind => ⟨1, .ok kind⟩

/-- A text, read behind its opening quote. If it has no closing quote the opening one is blamed. -/
def text (cs : List Char) : Lexeme :=
  match Quoted.scan cs with
  | some (s, n) => ⟨n + 1, .ok (.literal (.text (String.ofList s)))⟩
  | none => ⟨1, .error .unterminatedString⟩

/-- A number. One without the digits of its exponent is malformed up to where they should be, and
one out of range as a whole. -/
def number (cs : List Char) : Lexeme :=
  let numeral := Numeral.scan cs
  match numeral.decimal?.bind (Decimal.toFloat? false) with
  | some x => ⟨numeral.length, .ok (.literal (.number x))⟩
  | none => ⟨numeral.length, .error .malformedNumber⟩

def isAlphanumeric (c : Char) : Bool :=
  Unicode.isAlphabetic c || Unicode.isNumeric c

/-- The characters blamed together with a number sign that starts no error literal. -/
def continuesError (c : Char) : Bool :=
  isAlphanumeric c || c == '/' || c == '!' || c == '?' || c == '_'

/-- An error literal; the text starts with the number sign. -/
def errorLiteral (cs : List Char) : Lexeme :=
  match ErrorKind.atHead? cs with
  | some kind => ⟨kind.literal.length, .ok (.literal (.error kind))⟩
  | none => ⟨1 + (cs.tail.takeWhile continuesError).length, .error .unknownError⟩

def startsWord (c : Char) : Bool :=
  Unicode.isAlphabetic c || c == '_'

def continuesWord (c : Char) : Bool :=
  isAlphanumeric c || c == '_' || c == '.'

/-- The truth value that a word names, small and capital letters of ASCII alike. -/
def boolean? (word : List Char) : Option Bool :=
  if word.map Char.toUpper = "TRUE".toList then some true
  else if word.map Char.toUpper = "FALSE".toList then some false
  else none

def word (cs : List Char) : Lexeme :=
  let w := cs.takeWhile continuesWord
  match boolean? w with
  | some b => ⟨w.length, .ok (.literal (.boolean b))⟩
  | none => ⟨w.length, .error .unknownIdentifier⟩

/-- What stands at the head of the text `c :: cs`. -/
def ofChars (c : Char) (cs : List Char) : Lexeme :=
  match symbol? c cs with
  | some lexeme => lexeme
  | none =>
    if c = '"' then text cs
    else if Numeral.starts (c :: cs) then number (c :: cs)
    else if c = '#' then errorLiteral (c :: cs)
    else if startsWord c then word (c :: cs)
    else ⟨1, .error .unexpectedCharacter⟩

/-! ## Every lexeme takes at least one character -/

theorem symbol?_length_pos {c : Char} {cs : List Char} {lexeme : Lexeme}
    (h : symbol? c cs = some lexeme) : 0 < lexeme.length := by
  unfold symbol? at h
  split at h
  · cases h
    simp
  · obtain ⟨kind, -, rfl⟩ := Option.map_eq_some_iff.mp h
    simp

theorem text_length_pos (cs : List Char) : 0 < (text cs).length := by
  unfold text
  split <;> simp

theorem number_length_pos {cs : List Char} (h : Numeral.starts cs = true) :
    0 < (number cs).length := by
  have hpos := Numeral.scan_length_pos h
  simp only [number]
  split <;> exact hpos

theorem errorLiteral_length_pos (cs : List Char) : 0 < (errorLiteral cs).length := by
  unfold errorLiteral
  split
  · rename_i kind _
    cases kind <;> decide
  · exact Nat.lt_of_lt_of_le Nat.zero_lt_one (Nat.le_add_right 1 _)

theorem continuesWord_of_startsWord {c : Char} (h : startsWord c = true) :
    continuesWord c = true := by
  simp only [startsWord, continuesWord, isAlphanumeric, Bool.or_eq_true] at h ⊢
  exact h.elim (fun hc => .inl (.inl (.inl hc))) (fun hc => .inl (.inr hc))

theorem word_length_pos {c : Char} {cs : List Char} (h : startsWord c = true) :
    0 < (word (c :: cs)).length := by
  have hc := continuesWord_of_startsWord h
  simp only [word]
  split <;> simp [hc]

theorem ofChars_length_pos (c : Char) (cs : List Char) : 0 < (ofChars c cs).length := by
  unfold ofChars
  split
  · exact symbol?_length_pos (by assumption)
  · split
    · exact text_length_pos cs
    · split
      · exact number_length_pos (by assumption)
      · split
        · exact errorLiteral_length_pos _
        · split
          · exact word_length_pos (by assumption)
          · simp

end Lexeme

end CellFormula
