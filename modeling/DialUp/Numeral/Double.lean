/-!
# Double precision numbers

A double is not a number, an infinity, or a whole number times a power of two. Finite doubles are
kept in normal form: the significand is below 2^53, and it is at least 2^52 unless the exponent is
the least one. So two finite doubles are the same number exactly if they are equal, the two zeros
apart.

* `ofQuotient` is the double nearest to a quotient, a tie going to the even significand.
-/

namespace DialUp.Numeral

/-- A double precision number. -/
inductive Double
  | nan
  | infinite (negative : Bool)
  /-- The number `± significand · 2 ^ exponent`. -/
  | finite (negative : Bool) (significand : Nat) (exponent : Int)
  deriving DecidableEq, Repr, Inhabited

namespace Double

/-- The exponent of the smallest doubles. -/
def leastExponent : Int := -1074

/-- The exponent of the largest doubles. -/
def greatestExponent : Int := 971

/-- Zero, with its sign. -/
def zero (negative : Bool) : Double := .finite negative 0 leastExponent

/-- Whether the number is below zero or a zero. It does not hold of what is not a number. -/
def nonpositive : Double → Bool
  | .nan => false
  | .infinite negative => negative
  | .finite negative significand _ => negative || significand == 0

/-- Whether the number is neither of the zeros. -/
def nonzero : Double → Bool
  | .finite _ significand _ => significand != 0
  | _ => true

/-- The quotient `num / den` rounded to a whole number, a tie going to the even one. -/
def roundToEven (num den : Nat) : Nat :=
  let q := num / den
  let r := num % den
  if 2 * r < den then q
  else if den < 2 * r then q + 1
  else if q % 2 == 0 then q else q + 1

/-- The quotient `num / (den · 2 ^ exponent)` as a quotient of whole numbers. -/
def scaled (num den : Nat) (exponent : Int) : Nat × Nat :=
  if 0 ≤ exponent then (num, den * Nat.pow 2 exponent.toNat)
  else (num * Nat.pow 2 (-exponent).toNat, den)

/-- The exponent at which the quotient `num / den` has 53 binary digits before the point, or the
least exponent if that is greater. -/
def exponentFor (num den : Nat) : Int :=
  let guess : Int := (Nat.log2 num : Int) - Nat.log2 den - 53
  let (n, d) := scaled num den guess
  max leastExponent (if n < Nat.pow 2 53 * d then guess else guess + 1)

/-- Puts a significand of at most 2^53 into normal form; what is too large is infinite. -/
def normal (negative : Bool) (significand : Nat) (exponent : Int) : Double :=
  let (s, e) := if significand == Nat.pow 2 53 then (Nat.pow 2 52, exponent + 1)
    else (significand, exponent)
  if greatestExponent < e then .infinite negative else .finite negative s e

/-- The double nearest to the quotient `num / den`. -/
def ofQuotient (negative : Bool) (num den : Nat) : Double :=
  if num == 0 then zero negative
  else
    let exponent := exponentFor num den
    let (n, d) := scaled num den exponent
    normal negative (roundToEven n d) exponent

/-- The double nearest to a whole number, unless it is too large for any. -/
def ofInt? (i : Int) : Option Double :=
  match ofQuotient (i < 0) i.natAbs 1 with
  | .finite negative s e => some (.finite negative s e)
  | _ => none

/-! ## Arithmetic -/

/-- The number with the other sign. -/
def neg : Double → Double
  | .nan => .nan
  | .infinite negative => .infinite !negative
  | .finite negative s e => .finite (!negative) s e

/-- A finite double in units of `2 ^ unit`, which is no greater than its exponent. -/
def units (negative : Bool) (significand : Nat) (exponent unit : Int) : Int :=
  let n := significand * Nat.pow 2 (exponent - unit).toNat
  if negative then -(n : Int) else n

/-- The double nearest to the sum. A sum of zero is negative only if both summands are. -/
def add : Double → Double → Double
  | .finite a s e, .finite b t f =>
    let unit := min e f
    let sum := units a s e unit + units b t f unit
    let (n, d) := scaled sum.natAbs 1 (-unit)
    ofQuotient (if sum == 0 then a && b else sum < 0) n d
  | .nan, _ | _, .nan => .nan
  | .infinite a, .infinite b => if a == b then .infinite a else .nan
  | .infinite a, _ | _, .infinite a => .infinite a

/-- The double nearest to the product. -/
def mul : Double → Double → Double
  | .finite a s e, .finite b t f =>
    let (n, d) := scaled (s * t) 1 (-(e + f))
    ofQuotient (a != b) n d
  | .nan, _ | _, .nan => .nan
  | .infinite a, .infinite b => .infinite (a != b)
  | .infinite a, .finite b s _ | .finite b s _, .infinite a =>
    if s == 0 then .nan else .infinite (a != b)

/-! ## Whole numbers -/

/-- The whole number next to a finite double on the side of zero. -/
def truncated (negative : Bool) (significand : Nat) (exponent : Int) : Int :=
  let (n, d) := scaled significand 1 (-exponent)
  if negative then -((n / d : Nat) : Int) else (n / d : Nat)

/-- Whether a double is exactly the given whole number. -/
def equalsInt (x : Double) (i : Int) : Bool :=
  match x with
  | .finite negative s e =>
    let (n, d) := scaled s 1 (-e)
    n == i.natAbs * d && (s == 0 || negative == decide (i < 0))
  | _ => false

/-- Equality as numbers: the zeros are equal, and what is not a number equals nothing. -/
def sameNumber : Double → Double → Bool
  | .nan, _ => false
  | x, y => x == y || (!x.nonzero && !y.nonzero)

/-- The 64 bits of a double. -/
def bits : Double → Nat
  | .nan => 0x7FF8000000000000
  | .infinite negative => (if negative then Nat.pow 2 63 else 0) + 0x7FF0000000000000
  | .finite negative s e =>
    (if negative then Nat.pow 2 63 else 0) +
      (if s < Nat.pow 2 52 then s
        else (e - leastExponent + 1).toNat * Nat.pow 2 52 + (s - Nat.pow 2 52))

end Double

end DialUp.Numeral
