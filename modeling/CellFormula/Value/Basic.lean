import CellFormula.ErrorKind

/-! # Values of formulas -/

namespace CellFormula

/-- What a single cell can hold. -/
inductive Scalar where
  | number (x : Float)
  | text (s : String)
  | boolean (b : Bool)
  | error (kind : ErrorKind)
deriving DecidableEq

/-- A formula yields a scalar, or a list made by an array literal. -/
inductive Value where
  | scalar (s : Scalar)
  | list (items : List Value)

namespace Value

mutual

def decEq : (a b : Value) → Decidable (a = b)
  | scalar s, scalar t =>
    if h : s = t then isTrue (congrArg scalar h) else isFalse fun e => h (Value.scalar.inj e)
  | list xs, list ys =>
    match decEqList xs ys with
    | isTrue h => isTrue (congrArg list h)
    | isFalse h => isFalse fun e => h (Value.list.inj e)
  | scalar _, list _ => isFalse nofun
  | list _, scalar _ => isFalse nofun

def decEqList : (xs ys : List Value) → Decidable (xs = ys)
  | [], [] => isTrue rfl
  | x :: xs, y :: ys =>
    match decEq x y, decEqList xs ys with
    | isTrue h, isTrue hs => isTrue (h ▸ hs ▸ rfl)
    | isFalse h, _ => isFalse fun e => h (List.cons.inj e).1
    | _, isFalse hs => isFalse fun e => hs (List.cons.inj e).2
  | [], _ :: _ => isFalse nofun
  | _ :: _, [] => isFalse nofun

end

end Value

instance : DecidableEq Value := Value.decEq

/-- The type of a value. -/
inductive Tag where
  | number
  | text
  | boolean
  | error
  | list
deriving DecidableEq, Repr

def Tag.all : List Tag :=
  [number, text, boolean, error, list]

def Tag.name : Tag → String
  | number => "NUMBER"
  | text => "STRING"
  | boolean => "BOOLEAN"
  | error => "ERROR"
  | list => "LIST"

def Scalar.tag : Scalar → Tag
  | number _ => .number
  | text _ => .text
  | boolean _ => .boolean
  | error _ => .error

namespace Value

@[match_pattern] abbrev number (x : Float) : Value := scalar (.number x)

@[match_pattern] abbrev text (s : String) : Value := scalar (.text s)

@[match_pattern] abbrev boolean (b : Bool) : Value := scalar (.boolean b)

@[match_pattern] abbrev error (kind : ErrorKind) : Value := scalar (.error kind)

def tag : Value → Tag
  | scalar s => s.tag
  | list _ => .list

/-- The text of a text value, without coercion. -/
def text? : Value → Option String
  | text s => some s
  | _ => none

/-- The truth value of a boolean value, without coercion. -/
def boolean? : Value → Option Bool
  | boolean b => some b
  | _ => none

end Value

end CellFormula
