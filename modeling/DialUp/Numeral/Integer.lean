import DialUp.Text.Blank
import DialUp.Text.Digit

/-!
# Integers as text

Reading an integer is liberal: blanks around it, a sign, single underscores between digits and
decimal digits of any script are accepted. Writing gives ASCII digits. Neither side deals with
more than `maxDigits` digits.
-/

namespace DialUp.Numeral

/-- The most digits that an integer may have as text. -/
def maxDigits : Nat := 4300

/-- The blanks that may surround a number: all but the information separators. -/
def isPadding (c : Char) : Bool :=
  Text.isBlank c && !(0x1C ≤ c.toNat && c.toNat ≤ 0x1F)

/-- A text without the padding at either end. -/
def unpadded (cs : List Char) : List Char :=
  ((cs.dropWhile isPadding).reverse.dropWhile isPadding).reverse

/-- The digits after a first one: an underscore may stand between two digits. -/
def moreDigits? : List Char → Option (List Nat)
  | [] => some []
  | '_' :: c :: rest => do
    let d ← Text.decimalValue? c
    return d :: (← moreDigits? rest)
  | c :: rest => do
    let d ← Text.decimalValue? c
    return d :: (← moreDigits? rest)

/-- The values of the digits of a number without sign. -/
def digits? : List Char → Option (List Nat)
  | [] => none
  | c :: rest => do
    let d ← Text.decimalValue? c
    return d :: (← moreDigits? rest)

/-- The number that digits in the given base stand for, the highest first. -/
def ofDigits (base : Nat) (ds : List Nat) : Nat :=
  ds.foldl (fun n d => base * n + d) 0

/-- Splits a sign off a text; the flag tells a minus. -/
def signed : List Char → Bool × List Char
  | '-' :: rest => (true, rest)
  | '+' :: rest => (false, rest)
  | cs => (false, cs)

/-- Reads an integer. -/
def readInteger? (cs : List Char) : Option Int := do
  let (negative, body) := signed (unpadded cs)
  let ds ← digits? body
  if maxDigits < ds.length then none
  else
    let n := ofDigits 10 ds
    return if negative then -(n : Int) else n

/-- The digit of a value below ten. -/
def digitChar (d : Nat) : Char := Char.ofNat (0x30 + d)

/-- A number in decimal digits. -/
def decimalText (n : Nat) : List Char :=
  if n < 10 then [digitChar n] else decimalText (n / 10) ++ [digitChar (n % 10)]
termination_by n
decreasing_by omega

/-- Writes an integer. -/
def integerText (i : Int) : String :=
  String.ofList (if i < 0 then '-' :: decimalText i.natAbs else decimalText i.natAbs)

/-- Writes an integer of at most `maxDigits` digits. -/
def integerText? (i : Int) : Option String :=
  if i.natAbs < Nat.pow 10 maxDigits then some (integerText i) else none

end DialUp.Numeral
