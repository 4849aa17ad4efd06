import ScriptCheck.Number.Binary64
import ScriptCheck.Text.Numerals

/-!
# Reading decimal text

The floating point number nearest to a decimal text: digits with at most one point, and an optional
exponent. The words `inf`, `infinity` and `nan` are read as well, and everything may have a sign.
-/

namespace ScriptCheck.Number

open ScriptCheck.Text (isDecimalDigit readDigits)

/-- Digits with their exponent, as they were read. -/
structure Numeral where
  digits : List Char
  scale : Int
  deriving DecidableEq, Repr

namespace Numeral

/-- The exponent that a text denotes: an `e`, an optional sign and one digit at least. The empty
text is the exponent zero. -/
def exponent? : List Char → Option Int
  | [] => some 0
  | mark :: rest =>
      if mark = 'e' ∨ mark = 'E' then
        let (negative, digits) := match rest with
          | '-' :: digits => (true, digits)
          | '+' :: digits => (false, digits)
          | digits => (false, digits)
        if digits.isEmpty || !digits.all isDecimalDigit then none
        else
          let magnitude : Int := readDigits 10 digits
          some (if negative then -magnitude else magnitude)
      else none

/-- A numeral without sign. -/
def ofText? (text : List Char) : Option Numeral :=
  let whole := text.takeWhile isDecimalDigit
  let afterWhole := text.dropWhile isDecimalDigit
  let (fraction, rest) := match afterWhole with
    | '.' :: behind => (behind.takeWhile isDecimalDigit, behind.dropWhile isDecimalDigit)
    | behind => ([], behind)
  if whole.isEmpty && fraction.isEmpty then none
  else (exponent? rest).map fun exponent =>
    ⟨whole ++ fraction, exponent - fraction.length⟩

/-- The number nearest to a numeral. -/
def round (negative : Bool) (numeral : Numeral) : Binary64 :=
  Binary64.ofDecimal negative (readDigits 10 numeral.digits) numeral.digits.length numeral.scale

end Numeral

namespace Binary64

/-- The number nearest to a text without sign, or the number that a word names. -/
def ofUnsignedText? (negative : Bool) (text : List Char) : Option Binary64 :=
  let word := text.map Char.toLower
  if word = "inf".toList ∨ word = "infinity".toList then some (.infinite negative)
  else if word = "nan".toList then some .nan
  else (Numeral.ofText? text).map (Numeral.round negative)

/-- The number nearest to a text in ASCII. -/
def ofText? : List Char → Option Binary64
  | '-' :: text => ofUnsignedText? true text
  | '+' :: text => ofUnsignedText? false text
  | text => ofUnsignedText? false text

/-- The number nearest to a text, which may have blanks around it, underscores between its digits,
and digits of any script. -/
def ofNumeral? (text : List Char) : Option Binary64 := do
  ofText? (← Text.plainNumeral? text)

end Binary64

end ScriptCheck.Number
