import DialUp.Numeral.Double
import DialUp.Numeral.Integer

/-!
# Doubles in decimal

Reading accepts what reading an integer accepts, a fraction, an exponent, and the words for the
infinities and for what is not a number, in any case of letters; the nearest double is taken.
Writing gives the fewest digits that read back as the same double, and of those the nearest to it:
positional from 10^-4 to below 10^16, with an exponent of at least two digits elsewhere, and always
with a point or an exponent.
-/

namespace DialUp.Numeral

/-! ## Reading -/

/-- Splits a run of digits off a text. An underscore may stand between two digits only. -/
def takeDigits : List Char → List Nat × List Char
  | [] => ([], [])
  | c :: rest =>
    match Text.decimalValue? c with
    | none => ([], c :: rest)
    | some d =>
      match rest with
      | '_' :: c' :: rest' =>
        if (Text.decimalValue? c').isSome then
          let (ds, tail) := takeDigits (c' :: rest')
          (d :: ds, tail)
        else ([d], rest)
      | rest =>
        let (ds, tail) := takeDigits rest
        (d :: ds, tail)

/-- The exponent of a decimal number: nothing, or the letter `e`, a sign and digits up to the end
of the text. -/
def exponent? : List Char → Option Int
  | [] => some 0
  | e :: rest =>
    if e = 'e' ∨ e = 'E' then
      let (negative, body) := signed rest
      match takeDigits body with
      | ([], _) => none
      | (ds, []) => some (if negative then -(ofDigits 10 ds : Int) else ofDigits 10 ds)
      | _ => none
    else none

/-- The double nearest to `digits · 10 ^ exponent`. Exponents beyond every double are cut off
before the power is taken. -/
def ofDecimal (negative : Bool) (ds : List Nat) (exponent : Int) : Double :=
  let n := ofDigits 10 ds
  let top : Int := ds.length + exponent
  if n == 0 ∨ top < -400 then .zero negative
  else if 400 + (ds.length : Int) < top then .infinite negative
  else if 0 ≤ exponent then .ofQuotient negative (n * Nat.pow 10 exponent.toNat) 1
  else .ofQuotient negative n (Nat.pow 10 (-exponent).toNat)

/-- The small letter of an ASCII capital. -/
def asciiLower (c : Char) : Char :=
  if 0x41 ≤ c.toNat ∧ c.toNat ≤ 0x5A then Char.ofNat (c.toNat + 0x20) else c

/-- Reads a decimal number without sign. -/
def readUnsigned? (negative : Bool) (body : List Char) : Option Double :=
  let word := String.ofList (body.map asciiLower)
  if word = "inf" ∨ word = "infinity" then some (.infinite negative)
  else if word = "nan" then some .nan
  else
    let (whole, rest) := takeDigits body
    let (part, rest) := match rest with
      | '.' :: rest => takeDigits rest
      | rest => ([], rest)
    if whole.isEmpty ∧ part.isEmpty then none
    else do
      let e ← exponent? rest
      return ofDecimal negative (whole ++ part) (e - part.length)

/-- Reads a double. -/
def readDouble? (cs : List Char) : Option Double :=
  let (negative, body) := signed (unpadded cs)
  readUnsigned? negative body

/-! ## Writing -/

/-- The number `num / den` in units of `10 ^ place`, as a quotient. -/
def inUnits (num den : Nat) (place : Int) : Nat × Nat :=
  if 0 ≤ place then (num, den * Nat.pow 10 place.toNat)
  else (num * Nat.pow 10 (-place).toNat, den)

/-- The least number of tenths, hundredths, … that a quotient below one reaches. -/
def leadingPlace (num den : Nat) : (fuel : Nat) → (place : Nat) → Nat
  | 0, place => place
  | fuel + 1, place =>
    if den ≤ num * Nat.pow 10 place then place else leadingPlace num den fuel (place + 1)

/-- The power of ten of the first digit of `num / den`. -/
def leadingPower (num den : Nat) : Int :=
  if den ≤ num then ((decimalText (num / den)).length : Int) - 1
  else -(leadingPlace num den 400 1 : Int)

/-- The grid point of `10 ^ place` nearest to the double's value among its two neighbours that
read back as the double. -/
def gridPoint? (s : Nat) (e : Int) (num den : Nat) (place : Int) : Option Nat :=
  let (n, d) := inUnits num den place
  let low := n / d
  let reads (k : Nat) : Bool :=
    let (a, b) := inUnits k 1 (-place)
    Double.ofQuotient false a b == .finite false s e
  let r := n % d
  let nearLow := decide (2 * r < d) || (decide (2 * r = d) && low % 2 == 0)
  let (first, second) := if nearLow then (low, low + 1) else (low + 1, low)
  if reads first then some first else if reads second then some second else none

/-- The fewest digits that read back as the double, with the power of ten of the last one.
`count` is the number of digits to try first. -/
def fewestDigits (s : Nat) (e : Int) (num den : Nat) (power : Int) :
    (fuel : Nat) → (count : Nat) → Nat × Int
  | 0, count =>
    let place := power - (count : Int) + 1
    let (n, d) := inUnits num den place
    (Double.roundToEven n d, place)
  | fuel + 1, count =>
    let place := power - (count : Int) + 1
    match gridPoint? s e num den place with
    | some k => (k, place)
    | none => fewestDigits s e num den power fuel (count + 1)

/-- A number's digits without the zeros at its end, and the power of ten of the last digit left. -/
def withoutTrailingZeros (ds : List Char) (place : Int) : List Char × Int :=
  let zeros := (ds.reverse.takeWhile (· == '0')).length
  (ds.take (ds.length - zeros), place + zeros)

/-- An exponent: the letter, a sign and at least two digits. -/
def exponentText (e : Int) : List Char :=
  let ds := decimalText e.natAbs
  'e' :: (if e < 0 then '-' else '+') :: (if ds.length < 2 then '0' :: ds else ds)

/-- Digits laid out with a point or an exponent; `power` is the power of ten of the first. No digits
at all are laid out as a zero. -/
def laidOut (ds : List Char) (power : Int) : List Char :=
  if -4 ≤ power ∧ power < 0 then
    '0' :: '.' :: List.replicate (-power - 1).toNat '0' ++ ds
  else if 0 ≤ power ∧ power < 16 then
    let whole := power.toNat + 1
    if ds.length ≤ whole then ds ++ List.replicate (whole - ds.length) '0' ++ ['.', '0']
    else ds.take whole ++ '.' :: ds.drop whole
  else match ds with
    | [] => '0' :: exponentText power
    | [d] => d :: exponentText power
    | d :: rest => d :: '.' :: rest ++ exponentText power

/-- A double without its sign. -/
def magnitudeText (s : Nat) (e : Int) : List Char :=
  if s == 0 then ['0', '.', '0']
  else
    let (num, den) := Double.scaled s 1 (-e)
    let (k, place) := fewestDigits s e num den (leadingPower num den) 16 1
    let (ds, place) := withoutTrailingZeros (decimalText k) place
    laidOut ds (place + ds.length - 1)

/-- Writes a double. -/
def doubleText : Double → String
  | .nan => "nan"
  | .infinite negative => if negative then "-inf" else "inf"
  | .finite negative s e =>
    String.ofList (if negative then '-' :: magnitudeText s e else magnitudeText s e)

end DialUp.Numeral
