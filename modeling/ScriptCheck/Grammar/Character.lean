import ScriptCheck.Text.Digits
import ScriptCheck.Text.Letters

/-!
# Characters of scripts

Line ends, white space, and the characters that names are made of. Both grammars agree on the first
two; names of the modern grammar also take characters that Unicode keeps for the sake of older
names.
-/

namespace ScriptCheck.Grammar

open ScriptCheck.Text

/-- Line feed, carriage return, line separator and paragraph separator. -/
def isLineEnd (character : Char) : Bool :=
  let code := character.toNat
  code == 0x0A || code == 0x0D || code == 0x2028 || code == 0x2029

/-- White space within a line. -/
def isWhiteSpace (character : Char) : Bool :=
  let code := character.toNat
  code == 0x20 || code == 0x09 || code == 0x0B || code == 0x0C || code == 0xA0 ||
    code == 0x1680 || code == 0x180E || (0x2000 ≤ code && code ≤ 0x200A) ||
    code == 0x202F || code == 0x205F || code == 0x3000 || code == 0xFEFF

/-- A letter, a dollar sign, an underscore, or the backslash of an escape. -/
def startsClassicName (character : Char) : Bool :=
  isLetter character || character == '$' || character == '_' || character == '\\'

/-- What may follow the first character of a classic name. -/
def continuesClassicName (character : Char) : Bool :=
  startsClassicName character || isMark character ||
    character.toNat == 0x200C || character.toNat == 0x200D

/-- Characters that start names although they are no letters. -/
def isOtherStart (character : Char) : Bool :=
  let code := character.toNat
  code == 0x1885 || code == 0x1886 || code == 0x2118 || code == 0x212E ||
    code == 0x309B || code == 0x309C

/-- Characters that continue names although they are no marks. -/
def isOtherPart (character : Char) : Bool :=
  let code := character.toNat
  code == 0xB7 || code == 0x387 || (0x1369 ≤ code && code ≤ 0x1371) || code == 0x19DA

/-- What a modern name starts with. -/
def startsModernName (character : Char) : Bool :=
  startsClassicName character || isOtherStart character

/-- What may follow the first character of a modern name. -/
def continuesModernName (character : Char) : Bool :=
  continuesClassicName character || isOtherStart character || isOtherPart character

end ScriptCheck.Grammar
