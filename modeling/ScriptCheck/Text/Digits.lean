/-!
# Digits

Reading and writing of digits in bases up to sixteen.
-/

namespace ScriptCheck.Text

/-- Whether hexadecimal digits above nine are written as capitals. -/
inductive HexCase where
  | lower
  | upper
  deriving DecidableEq, Repr

/-- The digit that stands for a number below sixteen. -/
def hexDigit (letters : HexCase) (value : Nat) : Char :=
  if value < 10 then Char.ofNat (48 + value)
  else match letters with
    | .lower => Char.ofNat (87 + value)
    | .upper => Char.ofNat (55 + value)

/-- The last `width` hexadecimal digits of a number, leading zeros included. -/
def hexDigits (letters : HexCase) : (width : Nat) → Nat → List Char
  | 0, _ => []
  | width + 1, value => hexDigits letters width (value / 16) ++ [hexDigit letters (value % 16)]

/-- The number that a hexadecimal digit of either case stands for. -/
def hexValue? (character : Char) : Option Nat :=
  let code := character.toNat
  if 48 ≤ code ∧ code ≤ 57 then some (code - 48)
  else if 97 ≤ code ∧ code ≤ 102 then some (code - 87)
  else if 65 ≤ code ∧ code ≤ 70 then some (code - 55)
  else none

/-- `0` to `9`, `a` to `f` and `A` to `F`. -/
def isHexDigit (character : Char) : Bool := (hexValue? character).isSome

/-- `0` to `9`, and no digit of another script. -/
def isDecimalDigit (character : Char) : Bool :=
  48 ≤ character.toNat && character.toNat ≤ 57

/-- `0` to `7`. -/
def isOctalDigit (character : Char) : Bool :=
  48 ≤ character.toNat && character.toNat ≤ 55

/-- The number that digits of a base denote. Characters that are no digits count as zero, so callers
pass digits only. -/
def readDigits (base : Nat) (digits : List Char) : Nat :=
  digits.foldl (fun total digit => base * total + (hexValue? digit).getD 0) 0

/-- The decimal digits of a number, most significant first. -/
def decimal (value : Nat) : List Char := Nat.toDigits 10 value

/-- The decimal text of an integer, with a minus sign below zero. -/
def signedDecimal (value : Int) : List Char :=
  if value < 0 then '-' :: decimal value.natAbs else decimal value.natAbs

end ScriptCheck.Text
