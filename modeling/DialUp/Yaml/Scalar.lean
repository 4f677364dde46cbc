import DialUp.Text.Base64
import DialUp.Yaml.Tag

/-!
# Values of scalars

The tag of a scalar says how its text is read. Numbers may be written with underscores, whole
numbers also to the bases 2, 8, 16 and 60, and floats to the base 60.
-/

namespace DialUp.Yaml.Scalar

open Document (Mishap Value Date Moment)
open Numeral (Double)

/-! ## Whole numbers -/

/-- The value of a digit in a base of at most 16. -/
def digitIn? (base : Nat) (c : Char) : Option Nat :=
  match Text.decimalValue? c with
  | some d => if d < base then some d else none
  | none => if isHex c && hexValue c < base then some (hexValue c) else none

/-- The text after the mark of a base. -/
def withoutBaseMark (base : Nat) (cs : List Char) : List Char :=
  match cs with
  | zero :: mark :: rest =>
    let mark := Numeral.asciiLower mark
    let fits := mark == (if base == 16 then 'x' else if base == 8 then 'o' else 'b')
    if Text.decimalValue? zero == some 0 && fits then rest else cs
  | cs => cs

/-- Reads a whole number in one of the bases 2, 8 and 16. -/
def integerIn? (base : Nat) (cs : List Char) : Option Int := do
  let (negative, body) := Numeral.signed (Numeral.unpadded cs)
  let digits := withoutBaseMark base body
  if digits.isEmpty then none
  else
    let ds ← digits.mapM (digitIn? base)
    let n := Numeral.ofDigits base ds
    return if negative then -(n : Int) else n

/-- The parts of a text between colons. -/
def colonParts (cs : List Char) : List (List Char) := cs.splitOn ':'

/-- The whole number that parts to the base 60 stand for. -/
def integerOfSixties (parts : List Int) : Int := parts.foldl (60 * · + ·) 0

/-- The text without its sign; the flag tells a minus. -/
def signedText (cs : List Char) : Except Mishap (Bool × List Char) :=
  if cs.isEmpty then .error .tooShort else .ok (Numeral.signed cs)

/-- A number that was read. -/
def orBadValue {α : Type} : Option α → Except Mishap α
  | some a => .ok a
  | none => .error .badValue

/-- Reads a whole number without sign. -/
def unsignedInteger (cs : List Char) : Except Mishap Int :=
  match cs with
  | [] => .error .tooShort
  | ['0'] => .ok 0
  | '0' :: 'b' :: rest => orBadValue (integerIn? 2 rest)
  | '0' :: 'x' :: rest => orBadValue (integerIn? 16 rest)
  | '0' :: _ => orBadValue (integerIn? 8 cs)
  | cs =>
    if cs.contains ':' then
      return integerOfSixties (← orBadValue ((colonParts cs).mapM Numeral.readInteger?))
    else orBadValue (Numeral.readInteger? cs)

/-- Reads a whole number. -/
def integer (text : String) : Except Mishap Int := do
  let (negative, body) ← signedText (text.toList.filter (· != '_'))
  let n ← unsignedInteger body
  return if negative then -n else n

/-! ## Floats -/

/-- The sum of doubles to the base 60, the lowest first. Each step is rounded. -/
def doubleOfSixties (sum : Double) (base : Nat) : List Double → Except Mishap Double
  | [] => .ok sum
  | x :: rest =>
    match Double.ofInt? base with
    | some b => doubleOfSixties (sum.add (x.mul b)) (60 * base) rest
    | none => .error .tooLarge

/-- Reads a float without sign. -/
def unsignedFloat (cs : List Char) : Except Mishap Double := do
  let word := String.ofList cs
  if word == ".inf" then return .infinite false
  else if word == ".nan" then return .nan
  else if cs.contains ':' then
    let parts ← orBadValue ((colonParts cs).mapM Numeral.readDouble?)
    doubleOfSixties (.zero false) 1 parts.reverse
  else orBadValue (Numeral.readDouble? cs)

/-- Reads a float. -/
def float (text : String) : Except Mishap Double := do
  let cs := (text.toList.filter (· != '_')).map Numeral.asciiLower
  let (negative, body) ← signedText cs
  let x ← unsignedFloat body
  return if negative then x.neg else x

/-! ## Truth values and points in time -/

/-- Reads a truth value, in any case of letters. -/
def truth (text : String) : Except Mishap Bool :=
  let word := String.ofList (text.toList.map Numeral.asciiLower)
  if ["yes", "true", "on"].contains word then .ok true
  else if ["no", "false", "off"].contains word then .ok false
  else .error .unknownWord

/-- The number that ASCII digits stand for. -/
def number (ds : List Char) : Nat := ds.foldl (fun n d => 10 * n + (d.toNat - 0x30)) 0

/-- The microseconds of a fraction of a second; further digits do not count. -/
def microseconds (fraction : List Char) : Nat :=
  let ds := fraction.take 6
  number (ds ++ List.replicate (6 - ds.length) '0')

/-- The seconds of an offset from universal time. -/
def offsetSeconds : Option (Bool × List Char × List Char) → Int
  | none => 0
  | some (negative, hours, minutes) =>
    let n : Int := 3600 * number hours + 60 * number minutes
    if negative then -n else n

/-- Reads a point in time: a day, or a moment of it. -/
def time (text : String) : Except Mishap Value :=
  match Form.time? (Form.withoutLastBreak text.toList) with
  | none => .error .shapeless
  | some t =>
    let date : Date := ⟨number t.year, number t.month, number t.day⟩
    match t.time with
    | none => if date.valid then .ok (.date date) else .error .badValue
    | some (hour, minute, second) =>
      let m : Moment :=
        { date, hour := number hour, minute := number minute, second := number second
          microsecond := microseconds t.fraction, offset := t.offset.map offsetSeconds }
      if m.valid then .ok (.moment m) else .error .badValue

/-! ## All scalars -/

/-- Bytes in base 64. -/
def binary (text : String) : Except Fault Value :=
  let cs := text.toList
  if cs.any (0x80 ≤ ·.toNat) then .error .malformed
  else match Text.Base64.decode? cs with
    | some data => .ok (.bytes data)
    | none => .error .malformed

/-- A value that was read. -/
def orValueless {α : Type} (value : α → Value) : Except Mishap α → Except Fault Value
  | .ok a => .ok (value a)
  | .error m => .error (.valueless m)

/-- The value of a text with a tag. No text has a value under the tags of collections and marks. -/
def value (tag : Tag) (text : String) : Except Fault Value :=
  match tag with
  | .null => .ok .null
  | .bool => orValueless .bool (truth text)
  | .int => orValueless .int (integer text)
  | .float => orValueless .float (float text)
  | .binary => binary text
  | .timestamp => orValueless id (time text)
  | .str => .ok (.text text)
  | _ => .error .malformed

end DialUp.Yaml.Scalar
