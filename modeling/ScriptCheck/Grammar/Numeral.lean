import ScriptCheck.Number.Reading
import ScriptCheck.Number.Shortest

/-!
# Values of numerals

A complaint that shows a number shows its value: an integer in decimal if it is one, else the
shortest text of the floating point number.
-/

namespace ScriptCheck.Grammar

open ScriptCheck.Number

/-- The text of the value of digits in a base. -/
def digitsValueText (base : Nat) (digits : List Char) : String :=
  String.ofList (Text.decimal (Text.readDigits base digits))

/-- The text of the value of a decimal numeral, which may have a fraction and an exponent. -/
def numeralValueText (numeral : List Char) : String :=
  match Binary64.ofText? numeral with
  | some (.finite negative significand exponent) =>
      if Binary64.isIntegral significand exponent then
        String.ofList (Text.signedDecimal (Binary64.truncate negative significand exponent))
      else String.ofList (Binary64.finite negative significand exponent).toText
  | some number => String.ofList number.toText
  | none => ""

end ScriptCheck.Grammar
