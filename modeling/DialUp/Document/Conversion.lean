import DialUp.Document.Basic

/-!
# Conversions of document values

A value is taken as a whole number or as a double if it is a number, a truth value, or a text or
byte string that reads as one. A conversion says in which of three ways it fails: the value is of a
kind that is no number at all, it is a number that has no counterpart, or it is too large.
-/

namespace DialUp.Document

/-- An error for which there is no report. -/
inductive Mishap
  /-- A value of the right kind that does not do. -/
  | badValue
  /-- A value of the wrong kind. -/
  | badKind
  | tooLarge
  /-- A document that is nested too deep. -/
  | tooDeep
  /-- Bytes that are no text. -/
  | undecodable
  /-- A word that is missing from a table. -/
  | unknownWord
  /-- A text that is shorter than it must be. -/
  | tooShort
  /-- A text that lacks the parts it must have. -/
  | shapeless
  deriving DecidableEq, Repr

namespace Value

/-- The characters of a byte string that stands for a number. A byte beyond ASCII is no part of
any number. -/
def numeralChars (data : Bytes) : List Char :=
  data.map fun b => if b < 0x80 then Char.ofNat b.toNat else '?'

/-- A value as a whole number. A double is cut off at its point. -/
def toInt : Value → Except Mishap Int
  | .bool b => .ok (if b then 1 else 0)
  | .int i => .ok i
  | .float .nan => .error .badValue
  | .float (.infinite _) => .error .tooLarge
  | .float (.finite negative s e) => .ok (Numeral.Double.truncated negative s e)
  | .text s => orBadValue (Numeral.readInteger? s.toList)
  | .bytes data => orBadValue (Numeral.readInteger? (numeralChars data))
  | _ => .error .badKind
where
  /-- The number that was read, if any. -/
  orBadValue : Option Int → Except Mishap Int
    | some i => .ok i
    | none => .error .badValue

/-- A value as a double. -/
def toDouble : Value → Except Mishap Numeral.Double
  | .bool b => .ok (.ofQuotient false (if b then 1 else 0) 1)
  | .int i =>
    match Numeral.Double.ofInt? i with
    | some x => .ok x
    | none => .error .tooLarge
  | .float x => .ok x
  | .text s => orBadValue (Numeral.readDouble? s.toList)
  | .bytes data => orBadValue (Numeral.readDouble? (numeralChars data))
  | _ => .error .badKind
where
  /-- The number that was read, if any. -/
  orBadValue : Option Numeral.Double → Except Mishap Numeral.Double
    | some x => .ok x
    | none => .error .badValue

end Value

/-- The written form of a value. -/
def written (d : Document) (v : Value) : Except Mishap String :=
  match d.written? v with
  | some s => .ok s
  | none => .error .badValue

/-- The plain form of a value. -/
def plain (d : Document) (v : Value) : Except Mishap String :=
  match d.plain? v with
  | some s => .ok s
  | none => .error .badValue

/-! ## Mappings from other values -/

/-- The items of a value that can be gone through. -/
def items? (d : Document) (v : Value) : Option (List Value) :=
  match d.look v with
  | .text s => some (s.toList.map fun c => .text c.toString)
  | .bytes data => some (data.map fun b => .int b.toNat)
  | .list items => some items
  | .map pairs => some (pairs.map (·.1))
  | .set members => some members
  | .pair a b => some [a, b]
  | _ => none

/-- Adds key and value of a two-item value to a mapping. -/
def addItem (d : Document) (pairs : List (Value × Value)) (item : Value) :
    Except Mishap (List (Value × Value)) :=
  match d.items? item with
  | none => .error .badKind
  | some [key, value] =>
    if key.isKey then .ok (Value.insert key value pairs) else .error .badKind
  | some _ => .error .badValue

/-- A value as a mapping: itself, or the mapping made of its items, each of which gives a key and
a value. -/
def toPairs (d : Document) (v : Value) : Except Mishap (List (Value × Value)) :=
  match d.look v with
  | .map pairs => .ok pairs
  | v =>
    match d.items? v with
    | none => .error .badKind
    | some items => items.foldlM d.addItem []

end DialUp.Document
