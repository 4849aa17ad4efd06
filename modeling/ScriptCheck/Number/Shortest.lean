import ScriptCheck.Number.Binary64
import ScriptCheck.Text.Digits

/-!
# Shortest decimal text

The text of a floating point number has the fewest digits that read back as the number, and of those
the digits nearest to it. Reading back is `Binary64.ofDecimal`, so the search tries the two decimal
neighbours of the number at one digit, at two, and so on; seventeen digits are always enough.
-/

namespace ScriptCheck.Number.Shortest

open ScriptCheck.Number

/-- A decimal number `digits * 10 ^ scale`. -/
structure Decimal where
  digits : Nat
  scale : Int
  deriving DecidableEq, Repr

/-- The exponent of the leading digit: `10 ^ leading ≤ numerator / denominator < 10 ^ (leading +
1)`. The estimate from the binary logarithms is at most one too low. -/
def leadingExponent (numerator denominator : Nat) : Int :=
  let bits : Int := numerator.log2 - denominator.log2 - 1
  let guess : Int := Int.fdiv (bits * 1233) 4096 - 1
  let reaches (exponent : Int) : Bool :=
    if 0 ≤ exponent then denominator * Binary64.tenTo exponent.toNat ≤ numerator
    else denominator ≤ numerator * Binary64.tenTo (-exponent).toNat
  let rec climb : Nat → Int → Int
    | 0, exponent => exponent
    | steps + 1, exponent => if reaches (exponent + 1) then climb steps (exponent + 1) else exponent
  climb 4 guess

/-- The decimal at `scale` nearest to a quotient among those that read back as `value`. -/
def candidate? (value : Binary64) (numerator denominator : Nat) (scale : Int) : Option Decimal :=
  let (above, below) :=
    if 0 ≤ scale then (numerator, denominator * Binary64.tenTo scale.toNat)
    else (numerator * Binary64.tenTo (-scale).toNat, denominator)
  let low := above / below
  let remainder := above % below
  let readsBack (digits : Nat) : Bool :=
    Binary64.ofDecimal false digits 18 scale == value
  let lowFits := readsBack low
  let highFits := readsBack (low + 1)
  if lowFits && highFits then
    let up := below < 2 * remainder || (below == 2 * remainder && low % 2 == 1)
    some ⟨if up then low + 1 else low, scale⟩
  else if lowFits then some ⟨low, scale⟩
  else if highFits then some ⟨low + 1, scale⟩
  else none

/-- The first candidate with `count` digits or more; `steps` counts are tried. -/
def search (value : Binary64) (numerator denominator : Nat) (leading : Int) : Nat → Nat → Decimal
  | 0, count => ⟨(numerator / denominator), -count⟩
  | steps + 1, count =>
      match candidate? value numerator denominator (leading - count + 1) with
      | some found => found
      | none => search value numerator denominator leading steps (count + 1)

/-- The shortest decimal of a positive finite number. -/
def ofFinite (significand : Nat) (exponent : Int) : Decimal :=
  let numerator := if 0 ≤ exponent then significand * Binary64.twoTo exponent.toNat else significand
  let denominator := if 0 ≤ exponent then 1 else Binary64.twoTo (-exponent).toNat
  search (.finite false significand exponent) numerator denominator
    (leadingExponent numerator denominator) 18 1

/-- Significant digits without the zeros at their end, and the exponent of the first digit. -/
def digitsOf (number : Decimal) : List Char × Int :=
  let digits := Text.decimal number.digits
  let trimmed := (digits.reverse.dropWhile (· == '0')).reverse
  (trimmed, number.scale + digits.length - 1)

/-- Exponents from `-4` to `15` are written with a point in place, with a digit on either side;
others behind an `e`, with a sign and two digits at least. -/
def layOut (digits : List Char) (leading : Int) : List Char :=
  if leading < -4 ∨ 16 ≤ leading then
    let mantissa := match digits with
      | [] => ['0']
      | [digit] => [digit]
      | digit :: rest => digit :: '.' :: rest
    let magnitude := Text.decimal leading.natAbs
    let padded := if magnitude.length < 2 then '0' :: magnitude else magnitude
    mantissa ++ 'e' :: (if leading < 0 then '-' else '+') :: padded
  else if leading < 0 then
    '0' :: '.' :: (List.replicate (leading.natAbs - 1) '0' ++ digits)
  else
    let whole := leading.toNat + 1
    if digits.length ≤ whole then
      digits ++ List.replicate (whole - digits.length) '0' ++ ['.', '0']
    else digits.take whole ++ '.' :: digits.drop whole

end ScriptCheck.Number.Shortest

namespace ScriptCheck.Number.Binary64

/-- The text of a number: the fewest digits that read back, or a word. -/
def toText : Binary64 → List Char
  | .nan => "nan".toList
  | .infinite negative => if negative then "-inf".toList else "inf".toList
  | .finite negative significand exponent =>
      let magnitude :=
        if significand = 0 then ['0', '.', '0']
        else
          let (digits, leading) := Shortest.digitsOf (Shortest.ofFinite significand exponent)
          Shortest.layOut digits leading
      if negative then '-' :: magnitude else magnitude

end ScriptCheck.Number.Binary64
