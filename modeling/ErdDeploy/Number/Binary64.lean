/-!
Binary floating point of double precision, computed exactly on whole numbers.

A finite number is a sign, a mantissa and an exponent of two; `ofRatio` rounds a quotient of
whole numbers to the nearest one, a tie going to the even mantissa. All else, the sums, the
order and the decimal texts, is derived from that one rounding.
-/

namespace ErdDeploy

/-- A double precision number. A finite one is `± mantissa · 2 ^ exponent`. -/
inductive Binary64
  | nan
  | infinity (negative : Bool)
  | finite (negative : Bool) (mantissa : Nat) (exponent : Int)
  deriving DecidableEq, Repr

namespace Binary64

/-- The exponent of the numbers nearest to zero. -/
def leastExponent : Int := -1074

/-- The exponent of the largest finite numbers. -/
def greatestExponent : Int := 971

/-- The mantissa of a number that is not next to zero has this many bits. -/
def mantissaBits : Nat := 53

/-- A power of two. -/
def twoTo (exponent : Nat) : Nat :=
  Nat.pow 2 exponent

/-- A power of ten. -/
def tenTo (exponent : Nat) : Nat :=
  Nat.pow 10 exponent

/-- Zero of a given sign. -/
def zero (negative : Bool) : Binary64 :=
  .finite negative 0 leastExponent

/-- The quotient rounded to the nearest whole number, a tie going to the even one. -/
def roundQuotient (num den : Nat) : Nat :=
  let quotient := num / den
  let twice := 2 * (num % den)
  if twice < den then quotient
  else if den < twice then quotient + 1
  else quotient + quotient % 2

/-- A quotient `num / den / 2 ^ exponent` as a numerator and a denominator. -/
def scaleByPower (num den : Nat) (exponent : Int) : Nat × Nat :=
  if 0 ≤ exponent then (num, den * twoTo exponent.toNat)
  else (num * twoTo (-exponent).toNat, den)

/-- The exponent at which a positive quotient has a mantissa of full length, or the least
exponent where that is greater. -/
def exponentOf (num den : Nat) : Int :=
  let guess : Int := num.log2 - den.log2 - 52
  let scaled := scaleByPower num den guess
  let exact := if scaled.1 / scaled.2 < twoTo (mantissaBits - 1) then guess - 1 else guess
  max exact leastExponent

/-- The number nearest to `± num / den`. -/
def ofRatio (negative : Bool) (num den : Nat) : Binary64 :=
  if num = 0 then zero negative
  else
    let exponent := exponentOf num den
    let scaled := scaleByPower num den exponent
    let mantissa := roundQuotient scaled.1 scaled.2
    let (mantissa, exponent) :=
      if mantissa = twoTo mantissaBits then (twoTo (mantissaBits - 1), exponent + 1)
      else (mantissa, exponent)
    if greatestExponent < exponent then .infinity negative else .finite negative mantissa exponent

/-- The number nearest to a whole number. -/
def ofInt (n : Int) : Binary64 :=
  ofRatio (n < 0) n.natAbs 1

/-- The number nearest to `± digits · 10 ^ exponent`. Exponents far outside the range are
settled without computing the power. -/
def ofDecimal (negative : Bool) (digits : Nat) (exponent : Int) : Binary64 :=
  if digits = 0 then zero negative
  else
    let size : Int := (Nat.toDigits 10 digits).length + exponent
    if 400 < size then .infinity negative
    else if size < -400 then zero negative
    else if 0 ≤ exponent then ofRatio negative (digits * tenTo exponent.toNat) 1
    else ofRatio negative digits (tenTo (-exponent).toNat)

/-- The absolute value of a finite number as a numerator and a denominator. -/
def magnitude (mantissa : Nat) (exponent : Int) : Nat × Nat :=
  if 0 ≤ exponent then (mantissa * twoTo exponent.toNat, 1)
  else (mantissa, twoTo (-exponent).toNat)

/-- A finite number as a whole multiple of the least power of two. -/
def multiple (negative : Bool) (mantissa : Nat) (exponent : Int) : Int :=
  let size : Int := mantissa * twoTo (exponent - leastExponent).toNat
  if negative then -size else size

/-- The sum, rounded. -/
def add : Binary64 → Binary64 → Binary64
  | .nan, _ => .nan
  | _, .nan => .nan
  | .infinity left, .infinity right => if left = right then .infinity left else .nan
  | .infinity left, .finite .. => .infinity left
  | .finite .., .infinity right => .infinity right
  | .finite s m e, .finite t n f =>
    let total := multiple s m e + multiple t n f
    if total = 0 then zero (s && t)
    else ofRatio (total < 0) total.natAbs (twoTo (-leastExponent).toNat)

/-- The number with the other sign. -/
def neg : Binary64 → Binary64
  | .nan => .nan
  | .infinity negative => .infinity !negative
  | .finite negative mantissa exponent => .finite (!negative) mantissa exponent

/-- The difference, rounded. -/
def sub (left right : Binary64) : Binary64 :=
  add left (neg right)

/-- Whether one number is below another. Nothing is below or above what is not a number. -/
def lt : Binary64 → Binary64 → Bool
  | .nan, _ => false
  | _, .nan => false
  | .infinity left, .infinity right => left && !right
  | .infinity left, .finite .. => left
  | .finite .., .infinity right => !right
  | .finite s m e, .finite t n f => multiple s m e < multiple t n f

/-- Whether a number is zero of either sign. -/
def isZero : Binary64 → Bool
  | .finite _ 0 _ => true
  | _ => false

/-- The whole number that a finite number without a fraction stands for. -/
def toInt? : Binary64 → Option Int
  | .finite negative mantissa exponent =>
    let (num, den) := magnitude mantissa exponent
    if num % den = 0 then
      let size : Int := (num / den : Nat)
      some (if negative then -size else size)
    else none
  | _ => none

end Binary64

end ErdDeploy
