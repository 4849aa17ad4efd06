import ScriptCheck.Limits
import ScriptCheck.Text.Ranges

/-!
# Decimal digits of every script

The digits of Unicode 14 in the general category Nd, and what is made of texts that hold them: the
numerals that they stand for, and whether they look like a number below zero.
-/

namespace ScriptCheck.Text

/-- The decimal digits above U+007F. -/
def numeralRanges : Array (Nat × Nat) := #[
  (0x660, 0x669), (0x6F0, 0x6F9), (0x7C0, 0x7C9), (0x966, 0x96F), (0x9E6, 0x9EF), (0xA66, 0xA6F),
  (0xAE6, 0xAEF), (0xB66, 0xB6F), (0xBE6, 0xBEF), (0xC66, 0xC6F), (0xCE6, 0xCEF), (0xD66, 0xD6F),
  (0xDE6, 0xDEF), (0xE50, 0xE59), (0xED0, 0xED9), (0xF20, 0xF29), (0x1040, 0x1049), (0x1090,
  0x1099), (0x17E0, 0x17E9), (0x1810, 0x1819), (0x1946, 0x194F), (0x19D0, 0x19D9), (0x1A80,
  0x1A89), (0x1A90, 0x1A99), (0x1B50, 0x1B59), (0x1BB0, 0x1BB9), (0x1C40, 0x1C49), (0x1C50,
  0x1C59), (0xA620, 0xA629), (0xA8D0, 0xA8D9), (0xA900, 0xA909), (0xA9D0, 0xA9D9), (0xA9F0,
  0xA9F9), (0xAA50, 0xAA59), (0xABF0, 0xABF9), (0xFF10, 0xFF19), (0x104A0, 0x104A9), (0x10D30,
  0x10D39), (0x11066, 0x1106F), (0x110F0, 0x110F9), (0x11136, 0x1113F), (0x111D0, 0x111D9),
  (0x112F0, 0x112F9), (0x11450, 0x11459), (0x114D0, 0x114D9), (0x11650, 0x11659), (0x116C0,
  0x116C9), (0x11730, 0x11739), (0x118E0, 0x118E9), (0x11950, 0x11959), (0x11C50, 0x11C59),
  (0x11D50, 0x11D59), (0x11DA0, 0x11DA9), (0x16A60, 0x16A69), (0x16AC0, 0x16AC9), (0x16B50,
  0x16B59), (0x1D7CE, 0x1D7FF), (0x1E140, 0x1E149), (0x1E2F0, 0x1E2F9), (0x1E950, 0x1E959),
  (0x1FBF0, 0x1FBF9)]

/-- A decimal digit of any script. -/
def isNumeral (character : Char) : Bool :=
  isDecimalDigit character || Ranges.contains numeralRanges character.toNat

/-- The ASCII digit for a digit of any script. The digits of a script follow each other from zero
on. -/
def plainDigit? (character : Char) : Option Char :=
  if isDecimalDigit character then some character
  else (Ranges.find? numeralRanges character.toNat).map fun (first, _) =>
    hexDigit .lower ((character.toNat - first) % 10)

/-- The ASCII blanks that may surround a numeral. -/
def isPlainBlank (character : Char) : Bool :=
  character == ' ' || (9 ≤ character.toNat && character.toNat ≤ 13)

/-- The blanks beyond ASCII that may surround a numeral. -/
def isFurtherBlank (character : Char) : Bool :=
  let code := character.toNat
  code == 0x85 || code == 0xA0 || code == 0x1680 || (0x2000 ≤ code && code ≤ 0x200A) ||
    code == 0x2028 || code == 0x2029 || code == 0x202F || code == 0x205F || code == 0x3000

/-- A text in ASCII: digits of any script and blanks have counterparts there, and nothing else
has. -/
def plainText? : List Char → Option (List Char)
  | [] => some []
  | character :: rest => do
      let plain ←
        if character.toNat < 0x7F then some character
        else if isFurtherBlank character then some ' '
        else plainDigit? character
      return plain :: (← plainText? rest)

/-- A text without the blanks around it. -/
def withoutBlanks (text : List Char) : List Char :=
  ((text.dropWhile isPlainBlank).reverse.dropWhile isPlainBlank).reverse

/-- A numeral without its underscores. Each of them has to stand between two digits. -/
def withoutSeparators? : List Char → Option (List Char)
  | [] => some []
  | '_' :: _ => none
  | first :: '_' :: second :: rest =>
      if isDecimalDigit first && isDecimalDigit second then
        (withoutSeparators? (second :: rest)).map (first :: ·)
      else none
  | first :: rest => (withoutSeparators? rest).map (first :: ·)

/-- The ASCII spelling of a numeral: blanks around it and underscores between digits are left out,
and digits of any script become decimal digits. -/
def plainNumeral? (text : List Char) : Option (List Char) := do
  withoutSeparators? (withoutBlanks (← plainText? text))

/-- The integer that a text stands for: digits, not too many of them, perhaps with a sign in
front. -/
def integer? (limits : Limits) (text : List Char) : Option Int := do
  let (negative, digits) := match ← plainNumeral? text with
    | '-' :: digits => (true, digits)
    | '+' :: digits => (false, digits)
    | digits => (false, digits)
  if digits.isEmpty || !digits.all isDecimalDigit || !limits.Allows digits.length then none
  else
    let magnitude : Int := readDigits 10 digits
    return if negative then -magnitude else magnitude

/-- Digits, or a point with digits behind it and perhaps before it; a line feed may follow. -/
def isUnsignedNumber (text : List Char) : Bool :=
  let text := if text.getLast? = some '\n' then text.dropLast else text
  let behindDigits := text.dropWhile isNumeral
  match behindDigits with
  | [] => !text.isEmpty
  | '.' :: fraction => !fraction.isEmpty && fraction.all isNumeral
  | _ => false

/-- A minus sign in front of a number. -/
def isNegativeNumber : List Char → Bool
  | '-' :: text => isUnsignedNumber text
  | _ => false

end ScriptCheck.Text
