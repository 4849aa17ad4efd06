/-!
# Binary floating point numbers of 64 bits

The numbers of the format with 53 significant bits, as exact data. A finite number is `significand *
2 ^ exponent`; the constructors that build one keep the significand below `2 ^ 53` and the exponent
at `-1074` or above, with the significand at least `2 ^ 52` unless the exponent is least. Rounding
goes to the nearest number, and to the even significand between two.
-/

namespace ScriptCheck.Number

/-- A number of the format, a signed infinity, or no number at all. -/
inductive Binary64 where
  | nan
  | infinite (negative : Bool)
  | finite (negative : Bool) (significand : Nat) (exponent : Int)
  deriving DecidableEq, Repr

namespace Binary64

/-- The least exponent. -/
def leastExponent : Int := -1074

/-- The greatest exponent. -/
def greatestExponent : Int := 971

/-- The power of two with an exponent. -/
def twoTo (exponent : Nat) : Nat := Nat.pow 2 exponent

/-- The power of ten with an exponent. -/
def tenTo (exponent : Nat) : Nat := Nat.pow 10 exponent

/-- A quotient rounded to the nearest natural number, a half to the even one. -/
def roundQuotient (numerator denominator : Nat) : Nat :=
  let below := numerator / denominator
  let twice := 2 * (numerator % denominator)
  if twice < denominator then below
  else if denominator < twice then below + 1
  else if below % 2 = 0 then below else below + 1

/-- `numerator / denominator / 2 ^ exponent` as a quotient of natural numbers. -/
def scaled (numerator denominator : Nat) (exponent : Int) : Nat × Nat :=
  if 0 ≤ exponent then (numerator, denominator * twoTo exponent.toNat)
  else (numerator * twoTo (-exponent).toNat, denominator)

/-- The exponent at which a positive quotient has 53 significant bits, or the least one. -/
def exponentOf (numerator denominator : Nat) : Int :=
  let guess : Int := numerator.log2 - denominator.log2 - 52
  let (above, below) := scaled numerator denominator guess
  max leastExponent (if above / below < twoTo 52 then guess - 1 else guess)

/-- The number nearest to a quotient with positive denominator. -/
def ofRatio (negative : Bool) (numerator denominator : Nat) : Binary64 :=
  if numerator = 0 then .finite negative 0 leastExponent
  else
    let exponent := exponentOf numerator denominator
    let (above, below) := scaled numerator denominator exponent
    let rounded := roundQuotient above below
    let (significand, exponent) :=
      if rounded = twoTo 53 then (twoTo 52, exponent + 1) else (rounded, exponent)
    if greatestExponent < exponent then .infinite negative
    else .finite negative significand exponent

/-- The number nearest to `digits * 10 ^ scale`. Beyond the range of the format the powers of ten
are not computed: `digits` has at least one digit and at most `length` of them. -/
def ofDecimal (negative : Bool) (digits length : Nat) (scale : Int) : Binary64 :=
  if digits = 0 then .finite negative 0 leastExponent
  else if 400 < scale then .infinite negative
  else if scale + length < -400 then .finite negative 0 leastExponent
  else if 0 ≤ scale then ofRatio negative (digits * tenTo scale.toNat) 1
  else ofRatio negative digits (tenTo (-scale).toNat)

/-- The integer part, the fraction cut off. -/
def truncate (negative : Bool) (significand : Nat) (exponent : Int) : Int :=
  let magnitude :=
    if 0 ≤ exponent then significand * twoTo exponent.toNat
    else significand / twoTo (-exponent).toNat
  if negative then -(magnitude : Int) else magnitude

/-- Whether a finite number has no fraction. -/
def isIntegral (significand : Nat) (exponent : Int) : Bool :=
  0 ≤ exponent || significand % twoTo (-exponent).toNat == 0

/-- How a finite number compares with an integer. -/
def compareInt (negative : Bool) (significand : Nat) (exponent : Int) (value : Int) : Ordering :=
  let signed : Int := if negative then -(significand : Int) else significand
  if 0 ≤ exponent then compare (signed * twoTo exponent.toNat) value
  else compare signed (value * twoTo (-exponent).toNat)

/-- Equality of numbers: the two zeros are equal, and what is no number equals nothing. -/
def numericEq : Binary64 → Binary64 → Bool
  | .nan, _ | _, .nan => false
  | .infinite left, .infinite right => left == right
  | .finite left significand exponent, .finite right significand' exponent' =>
      (significand == 0 && significand' == 0) ||
        (left == right && significand == significand' && exponent == exponent')
  | _, _ => false

end Binary64

end ScriptCheck.Number
