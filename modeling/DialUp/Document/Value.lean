import DialUp.Bytes
import DialUp.Document.Moment
import DialUp.Numeral.Decimal
import DialUp.Text.Quoted

/-!
# Document values

What a configuration document is made of: scalars, lists and mappings. A mapping keeps its keys in
the order in which they first came, and each key once; numbers and truth values are the same key
if they are equal as numbers.

A list, a mapping or a set may stand in a value itself, or the value tells the place at which the
document keeps it. By places a collection can be a part of several others, and of itself.
-/

namespace DialUp.Document

/-- A document, or a part of one. -/
inductive Value
  | null
  | bool (b : Bool)
  | int (i : Int)
  | float (x : Numeral.Double)
  | text (s : String)
  | bytes (data : Bytes)
  | date (d : Date)
  | moment (m : Moment)
  | list (items : List Value)
  | map (pairs : List (Value × Value))
  | set (members : List Value)
  /-- Two values that belong together. -/
  | pair (first second : Value)
  /-- The collection that the document keeps at a place. -/
  | part (place : Nat)
  deriving Repr, Inhabited

namespace Value

/-! ## Keys -/

/-- Whether two values are the same key. Lists, mappings and sets are no keys. -/
def sameKey : Value → Value → Bool
  | .null, .null => true
  | .text s, .text t => s == t
  | .bytes a, .bytes b => a == b
  | .date a, .date b => a == b
  | .moment a, .moment b => a.same b
  | .bool a, .bool b => a == b
  | .int a, .int b => a == b
  | .float a, .float b => a.sameNumber b
  | .bool a, .int b => (if a then 1 else 0) == b
  | .int a, .bool b => a == (if b then 1 else 0)
  | .bool a, .float b => b.equalsInt (if a then 1 else 0)
  | .float a, .bool b => a.equalsInt (if b then 1 else 0)
  | .int a, .float b => b.equalsInt a
  | .float a, .int b => a.equalsInt b
  | _, _ => false

/-- Whether a value can be a key. -/
def isKey : Value → Bool
  | .list _ | .map _ | .set _ | .part _ => false
  | .pair a b => a.isKey && b.isKey
  | _ => true

/-- Gives a key a value. A key that is there keeps its place. -/
def insert (key value : Value) : List (Value × Value) → List (Value × Value)
  | [] => [(key, value)]
  | (k, v) :: rest =>
    if k.sameKey key then (k, value) :: rest else (k, v) :: insert key value rest

/-- Adds a member to a set. -/
def addMember (member : Value) (members : List Value) : List Value :=
  if members.any (·.sameKey member) then members else members ++ [member]

/-- The value of a text key. -/
def get? (pairs : List (Value × Value)) (key : String) : Option Value :=
  (pairs.find? fun (k, _) => k.sameKey (.text key)).map (·.2)

/-- The value of a text key, or null. -/
def getD (pairs : List (Value × Value)) (key : String) : Value :=
  (get? pairs key).getD .null

/-! ## Written form -/

/-- What is written of a collection inside of itself. -/
def ellipsis : Value → String
  | .map _ => "\x7b...\x7d"
  | _ => "[...]"

section

variable (partText? : Nat → Option String)

mutual

/-- The written form of a value, given the written forms of the collections that are kept at
places. Texts are quoted. -/
def writtenWith? : Value → Option String
  | .null => some "None"
  | .bool b => some (if b then "True" else "False")
  | .int i => Numeral.integerText? i
  | .float x => some (Numeral.doubleText x)
  | .text s => some (Text.quoted s)
  | .bytes data => some (Text.quotedBytes data)
  | .date d => some d.longText
  | .moment m => some m.longText
  | .list items => do return "[" ++ String.intercalate ", " (← writtenItems? items) ++ "]"
  | .map pairs =>
    do return "\x7b" ++ String.intercalate ", " (← writtenPairs? pairs) ++ "\x7d"
  | .set [] => some "set()"
  | .set members =>
    do return "\x7b" ++ String.intercalate ", " (← writtenItems? members) ++ "\x7d"
  | .pair a b => do return "(" ++ (← writtenWith? a) ++ ", " ++ (← writtenWith? b) ++ ")"
  | .part place => partText? place

/-- The written forms of the items of a list. -/
def writtenItems? : List Value → Option (List String)
  | [] => some []
  | v :: rest => do return (← writtenWith? v) :: (← writtenItems? rest)

/-- The written forms of the pairs of a mapping. -/
def writtenPairs? : List (Value × Value) → Option (List String)
  | [] => some []
  | (k, v) :: rest =>
    do return ((← writtenWith? k) ++ ": " ++ (← writtenWith? v)) :: (← writtenPairs? rest)

end

end

end Value

end DialUp.Document
