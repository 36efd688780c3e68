import CellFormula.Decimal.Text
import CellFormula.Value.Basic

/-! # Tagged results and their JSON text -/

namespace CellFormula

/-- A value in which every level carries a tag. The tag need not match the payload. -/
inductive Tagged where
  | scalar (tag : Tag) (payload : Scalar)
  | list (tag : Tag) (items : List Tagged)

namespace Tagged

mutual

/-- Tag a value at every level. -/
def ofValue : Value → Tagged
  | .scalar s => scalar s.tag s
  | .list items => list .list (ofValues items)

def ofValues : List Value → List Tagged
  | [] => []
  | item :: rest => ofValue item :: ofValues rest

end

mutual

/-- Forget the tags. -/
def toValue : Tagged → Value
  | scalar _ s => .scalar s
  | list _ items => .list (toValues items)

def toValues : List Tagged → List Value
  | [] => []
  | item :: rest => toValue item :: toValues rest

end

theorem ofValues_eq_map (items : List Value) : ofValues items = items.map ofValue := by
  induction items with
  | nil => rw [ofValues, List.map_nil]
  | cons item rest ih => rw [ofValues, ih, List.map_cons]

theorem toValues_eq_map (items : List Tagged) : toValues items = items.map toValue := by
  induction items with
  | nil => rw [toValues, List.map_nil]
  | cons item rest ih => rw [toValues, ih, List.map_cons]

/-- Numbers in JSON: positional from `1e-5` up to `1e16`, always with a point or an exponent, a
halfway case to the even digit, and zero with its sign. -/
def jsonNumber : NumberStyle where
  tie := .even
  isPositional e := decide (-5 ≤ e) && decide (e < 16)
  wholePoint := true
  signedZero := true

/-- The escape of one character inside a JSON string. Quotes, backslashes and the characters below
the space are escaped, nothing else. -/
def jsonEscape (c : Char) : List Char :=
  if c = '"' then ['\\', '"']
  else if c = '\\' then ['\\', '\\']
  else if c = '\x08' then ['\\', 'b']
  else if c = '\t' then ['\\', 't']
  else if c = '\n' then ['\\', 'n']
  else if c = '\x0c' then ['\\', 'f']
  else if c = '\r' then ['\\', 'r']
  else if c.toNat < 0x20 then
    ['\\', 'u', '0', '0', Nat.digitChar (c.toNat / 16), Nat.digitChar (c.toNat % 16)]
  else [c]

def jsonString (s : String) : String :=
  String.ofList ('"' :: (s.toList.flatMap jsonEscape ++ ['"']))

def jsonScalar : Scalar → String
  | .number x => jsonNumber.write x
  | .text s => jsonString s
  | .boolean b => if b then "true" else "false"
  | .error kind => jsonString kind.code

/-- An object with the tag before the payload. -/
def jsonObject (tag : Tag) (payload : String) : String :=
  "\x7b\"type\":" ++ jsonString tag.name ++ ",\"value\":" ++ payload ++ "\x7d"

mutual

/-- Compact JSON text. -/
def json : Tagged → String
  | scalar tag s => jsonObject tag (jsonScalar s)
  | list tag items => jsonObject tag ("[" ++ ",".intercalate (jsonEach items) ++ "]")

def jsonEach : List Tagged → List String
  | [] => []
  | item :: rest => json item :: jsonEach rest

end

end Tagged

end CellFormula
