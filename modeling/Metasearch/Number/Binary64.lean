/-
Binary floating point with 53 significant bits, in exact whole-number arithmetic. A number here
has no sign: it is a significand times a power of two, or infinite. Every operation computes the
exact quotient and rounds it once, to the nearest number and to the even one of two that are
equally near.

A number is written with the fewest decimal digits that read back as the same number: on the
grid of one digit, then of two, and so on, the two neighbours of the number are tried against
the interval of values that round to it, ends included when the significand is even.
-/
import Metasearch.Number.Integer

namespace Metasearch.Number

/-- A number without sign: `significand * 2 ^ exponent`, or infinite. -/
inductive Binary64
  | finite (significand : Nat) (exponent : Int)
  | infinite
  deriving DecidableEq, Repr

namespace Binary64

/-- The least exponent; the numbers at it may have fewer significant bits. -/
def minExponent : Int := -1074

/-- The greatest exponent of a finite number. -/
def maxExponent : Int := 971

/-- Zero. -/
def zero : Binary64 := .finite 0 minExponent

/-- The quotient of two whole numbers rounded to the nearest one, ties to the even one. -/
def roundQuotient (dividend divisor : Nat) : Nat :=
  let quotient := dividend / divisor
  let twice := 2 * (dividend % divisor)
  if twice > divisor || (twice == divisor && quotient % 2 == 1) then quotient + 1 else quotient

/-- The quotient divided by a power of two. -/
def shiftQuotient (dividend divisor : Nat) (exponent : Int) : Nat × Nat :=
  if exponent < 0 then (dividend * twoTo exponent.natAbs, divisor)
  else (dividend, divisor * twoTo exponent.natAbs)

/-- The number nearest to a quotient. -/
def ofQuotient (dividend divisor : Nat) : Binary64 :=
  if dividend == 0 || divisor == 0 then zero
  else
    let estimate : Int := (dividend.log2 : Int) - (divisor.log2 : Int) - 53
    let scaled := shiftQuotient dividend divisor estimate
    let fitting := if scaled.1 / scaled.2 ≥ twoTo 53 then estimate + 1 else estimate
    let exponent := if fitting < minExponent then minExponent else fitting
    let scaled := shiftQuotient dividend divisor exponent
    let rounded := roundQuotient scaled.1 scaled.2
    let (significand, exponent) :=
      if rounded ≥ twoTo 53 then (rounded / 2, exponent + 1) else (rounded, exponent)
    if exponent > maxExponent then .infinite else .finite significand exponent

/-- The number nearest to a whole number. -/
def ofNat (whole : Nat) : Binary64 :=
  ofQuotient whole 1

/-- The number nearest to `digits * 10 ^ power`. -/
def ofDecimal (digits : Nat) (power : Int) : Binary64 :=
  if power < 0 then ofQuotient digits (tenTo power.natAbs)
  else ofQuotient (digits * tenTo power.natAbs) 1

/-- The value as a quotient of whole numbers. -/
def quotient (significand : Nat) (exponent : Int) : Nat × Nat :=
  if exponent < 0 then (significand, twoTo exponent.natAbs)
  else (significand * twoTo exponent.natAbs, 1)

/-- The product, rounded. -/
def mul : Binary64 → Binary64 → Binary64
  | .finite left leftExponent, .finite right rightExponent =>
    let product := quotient (left * right) (leftExponent + rightExponent)
    ofQuotient product.1 product.2
  | _, _ => .infinite

/-- The quotient of two numbers; the divisor is finite and not zero where this is used. -/
def div : Binary64 → Binary64 → Binary64
  | .finite left leftExponent, .finite right rightExponent =>
    let above := quotient left leftExponent
    let below := quotient right rightExponent
    ofQuotient (above.1 * below.2) (above.2 * below.1)
  | .infinite, _ => .infinite
  | _, .infinite => zero

/-- The number is zero. -/
def isZero : Binary64 → Bool
  | .finite significand _ => significand == 0
  | .infinite => false

/-- The whole part, and `limit` for what is greater than `limit`. -/
def truncate (limit : Nat) : Binary64 → Nat
  | .finite significand exponent =>
    let value := quotient significand exponent
    min limit (value.1 / value.2)
  | .infinite => limit

/-! ### Reading decimal text -/

/-- Reads digits with at most one point among them, at least one digit in all. -/
def readDecimal? (text : List Char) : Option Binary64 :=
  let whole := text.takeWhile Char.isDigit
  let build (fraction : List Char) : Option Binary64 :=
    if (whole ++ fraction).isEmpty || !fraction.all Char.isDigit then none
    else
      some (ofDecimal ((whole ++ fraction).foldl (fun value c => value * 10 + (c.toNat - 48)) 0)
        (-(fraction.length : Int)))
  match text.drop whole.length with
  | [] => build []
  | '.' :: fraction => build fraction
  | _ => none

/-! ### Writing the fewest digits -/

/-- How many decimal places the whole part of a quotient has; for a quotient below one, minus
the number of zeros that follow its point. -/
def decimalPlaces (dividend divisor : Nat) : Int :=
  if dividend / divisor > 0 then ((Nat.toDigits 10 (dividend / divisor)).length : Int)
  else ((Nat.toDigits 10 (dividend * tenTo 400 / divisor)).length : Int) - 400

/-- The grid point of `count` digits that reads back as the number: the digits and the power of
ten of the last one. The number and the half-gaps to its neighbours are given over one common
divisor. -/
def gridPoint? (value below above divisor : Nat) (closed : Bool) (places : Int) (count : Nat) :
    Option (Nat × Int) :=
  let power : Int := places - count
  let unit := if power < 0 then divisor else divisor * tenTo power.natAbs
  let scale := if power < 0 then tenTo power.natAbs else 1
  let value := value * scale
  let low := value - below * scale
  let high := value + above * scale
  let digits := value / unit
  let inside (point : Nat) : Bool :=
    if closed then low ≤ point && point ≤ high else low < point && point < high
  let lower := digits * unit
  let upper := (digits + 1) * unit
  match inside lower, inside upper with
  | true, true =>
    if value - lower < upper - value || (value - lower == upper - value && digits % 2 == 0)
    then some (digits, power) else some (digits + 1, power)
  | true, false => some (digits, power)
  | false, true => some (digits + 1, power)
  | false, false => none

/-- The fewest digits that read back as the number, and the power of ten of the last one. -/
def shortest (significand : Nat) (exponent : Int) : Nat × Int :=
  if significand == 0 then (0, 0)
  else
    let value := quotient (4 * significand) exponent
    let gap := quotient 2 exponent
    let narrow := significand == twoTo 52 && exponent > minExponent
    let below := if narrow then gap.1 / 2 else gap.1
    let places := decimalPlaces value.1 (4 * value.2)
    ((List.range 17).findSome? fun index =>
      gridPoint? value.1 below gap.1 (4 * value.2) (significand % 2 == 0) places (index + 1)).getD
      (significand, 0)

/-- Digits and their power of ten in positional notation, with a point in any case. -/
def positional (digits : Nat) (power : Int) : List Char :=
  let written := Nat.toDigits 10 digits
  if power ≥ 0 then
    written ++ List.replicate (if digits == 0 then 0 else power.natAbs) '0' ++ ['.', '0']
  else
    let point := (written.length : Int) + power
    if point > 0 then written.take point.natAbs ++ '.' :: written.drop point.natAbs
    else '0' :: '.' :: List.replicate point.natAbs '0' ++ written

/-- Drops the zeros at the end of the digits, each a power of ten. -/
def stripZeros : Nat → Nat → Int → Nat × Int
  | 0, digits, power => (digits, power)
  | fuel + 1, digits, power =>
    if digits != 0 && digits % 10 == 0 then stripZeros fuel (digits / 10) (power + 1)
    else (digits, power)

/-- The number in positional notation. -/
def toPositional : Binary64 → List Char
  | .finite significand exponent =>
    let (digits, power) := shortest significand exponent
    let (digits, power) := stripZeros 20 digits power
    positional digits power
  | .infinite => ['i', 'n', 'f']

/-- The number in positional notation from `0.00001` up to sixteen places, else with an exponent. -/
def toCompact : Binary64 → List Char
  | .finite significand exponent =>
    let (digits, power) := shortest significand exponent
    let (digits, power) := stripZeros 20 digits power
    let written := Nat.toDigits 10 digits
    let point := (written.length : Int) + power
    if digits == 0 || (-5 < point && point ≤ 16) then positional digits power
    else
      let tail := if written.length > 1 then '.' :: written.drop 1 else []
      written.take 1 ++ tail ++ 'e' :: (toString (point - 1)).toList
  | .infinite => ['i', 'n', 'f']

end Binary64

end Metasearch.Number
