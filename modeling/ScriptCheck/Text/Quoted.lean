import ScriptCheck.Text.Digits
import ScriptCheck.Text.Printable

/-!
# Quoted text

A text in quotation marks, on one line, with everything escaped that would not show. Single marks
are used unless the text holds single marks and no double ones. Which characters would show is for a
table to say.
-/

namespace ScriptCheck.Text.Quoted

/-- The mark around a text. -/
def mark (text : List Char) : Char :=
  if text.contains '\'' && !text.contains '"' then '"' else '\''

/-- A numeric escape, of the shortest of the three forms that holds the code point. -/
def codeEscape (code : Nat) : List Char :=
  if code < 0x100 then '\\' :: 'x' :: hexDigits .lower 2 code
  else if code < 0x10000 then '\\' :: 'u' :: hexDigits .lower 4 code
  else '\\' :: 'U' :: hexDigits .lower 8 code

/-- How one character is written between marks, by a table of printable characters. -/
def escape (printable : Char → Bool) (mark character : Char) : List Char :=
  if character = mark ∨ character = '\\' then ['\\', character]
  else if character = '\n' then ['\\', 'n']
  else if character = '\r' then ['\\', 'r']
  else if character = '\t' then ['\\', 't']
  else if printable character then [character]
  else codeEscape character.toNat

/-- The quoted form of a text, by a table of printable characters. -/
def write (printable : Char → Bool) (text : List Char) : List Char :=
  let around := mark text
  around :: text.flatMap (escape printable around) ++ [around]

/-- A text in quotation marks, with what is printable left as it is. -/
def quote (text : String) : String := String.ofList (write isPrintable text.toList)

/-- How one byte is written between marks: printable ASCII stands for itself. -/
def escapeByte (mark : Char) (byte : UInt8) : List Char :=
  let character := Char.ofNat byte.toNat
  if character = mark ∨ character = '\\' then ['\\', character]
  else if character = '\n' then ['\\', 'n']
  else if character = '\r' then ['\\', 'r']
  else if character = '\t' then ['\\', 't']
  else if 0x20 ≤ byte.toNat ∧ byte.toNat < 0x7F then [character]
  else '\\' :: 'x' :: hexDigits .lower 2 byte.toNat

/-- The quoted form of a byte string, which opens with a `b` before the mark. -/
def writeBytes (bytes : List UInt8) : List Char :=
  let around := mark (bytes.map fun byte => Char.ofNat byte.toNat)
  'b' :: around :: bytes.flatMap (escapeByte around) ++ [around]

end ScriptCheck.Text.Quoted
