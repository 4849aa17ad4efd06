import ScriptCheck.Grammar.Numeral
import ScriptCheck.Grammar.Reader
import ScriptCheck.Text.CodePoints

/-!
# Reading literals

Numbers, texts, pieces of templates and the bodies of regular expressions. The grammars agree on
them except for what they make of escapes, which is handed over.
-/

namespace ScriptCheck.Grammar

open ScriptCheck.Text (isDecimalDigit isOctalDigit isHexDigit hexValue? readDigits textOf)

variable {ε σ : Type} [Reading ε σ]

/-- The token from an index up to the cursor. -/
def tokenFrom (kind : TokenKind) (value : String) (start : Nat) : EStateM ε σ Token := do
  let cursor ← getCursor
  return { kind, value, line := cursor.line, start, stop := cursor.index }

/-- The word of some code points, from an index up to the cursor. -/
def wordFrom (kind : TokenKind) (codes : List Nat) (start : Nat) : EStateM ε σ Token := do
  return { ← tokenFrom kind (textOf codes) start with name := ⟨codes⟩ }

/-- Read hexadecimal digits of a fixed number. Short of digits there is no value, and the cursor
stays behind those that were read. -/
def hexEscape : (count : Nat) → (value : Nat) → EStateM ε σ (Option Nat)
  | 0, value => return some value
  | count + 1, value => do
      if ← atEnd then return none
      match hexValue? (← peek) with
      | none => return none
      | some digit =>
          advance 1
          hexEscape count (value * 16 + digit)

/-- Read an escaped code point in braces, behind the opening one. -/
def bracedEscape : EStateM ε σ Nat := do
  if (← peek) = '}' then failAtCursor
  let (value, closed) ← iterate 0 fun value => do
    if ← atEnd then return .inr (value, false)
    let character ← take
    match hexValue? character with
    | some digit => return .inl (value * 16 + digit)
    | none => return .inr (value, character == '}')
  if 0x10FFFF < value ∨ !closed then failAtCursor
  return value

/-- Read the rest of an octal escape behind its first digit: its code point, and whether the escape
is an octal one, which a lone zero is not. Three digits fit only behind a small first one. -/
def octalEscape (first : Char) : EStateM ε σ (Nat × Bool) := do
  let value := readDigits 8 [first]
  let second ← peek
  if (← atEnd) ∨ !isOctalDigit second then return (value, first != '0')
  advance 1
  let value := readDigits 8 [first, second]
  let third ← peek
  if (← atEnd) ∨ !isOctalDigit third ∨ '3' < first then return (value, true)
  advance 1
  return (readDigits 8 [first, second, third], true)

/-- The code point of a simple escape. -/
def simpleEscape? (letter : Char) : Option Nat :=
  if letter = 'n' then some 10
  else if letter = 'r' then some 13
  else if letter = 't' then some 9
  else if letter = 'b' then some 8
  else if letter = 'f' then some 12
  else if letter = 'v' then some 11
  else none

/-- A numeral must not run into a name. -/
def endNumeral (refused : Char → Bool) : EStateM ε σ Unit := do
  if refused (← peek) then failAtCursor

/-- Read the digits of an integer in a base, behind its mark. There is a digit at least. -/
def readRadix (base : Nat) (isDigit : Char → Bool) (refused : Char → Bool) (start : Nat) :
    EStateM ε σ Token := do
  let digits ← takeWhile isDigit
  if digits.isEmpty then failAtCursor
  endNumeral refused
  tokenFrom .number (digitsValueText base digits) start

/-- Whether digits behind a leading zero are octal: no eight or nine comes before they end. -/
def isOctalNumeral : List Char → Bool
  | [] => true
  | character :: rest =>
      if character = '8' ∨ character = '9' then false
      else if isOctalDigit character then isOctalNumeral rest
      else true

/-- Read a decimal numeral. -/
def readDecimal (startsName : Char → Bool) (start : Nat) : EStateM ε σ Token := do
  let whole ← takeWhile isDecimalDigit
  let mut numeral := whole
  if (← peek) = '.' then
    advance 1
    numeral := numeral ++ '.' :: (← takeWhile isDecimalDigit)
  let mark ← peek
  if mark = 'e' ∨ mark = 'E' then
    advance 1
    let mut exponent := ['e']
    let sign ← peek
    if sign = '+' ∨ sign = '-' then
      advance 1
      exponent := ['e', sign]
    let digits ← takeWhile isDecimalDigit
    if digits.isEmpty then failAtCursor
    numeral := numeral ++ exponent ++ digits
  endNumeral startsName
  tokenFrom .number (numeralValueText numeral) start

/-- Read a number: a decimal one, one with a mark for its base, or an octal one behind a zero. -/
def readNumber (startsName : Char → Bool) : EStateM ε σ Token := do
  let start := (← getCursor).index
  let mark ← peekAt 1
  let startsWordOrDigit (character : Char) : Bool :=
    startsName character || isDecimalDigit character
  if (← peek) = '0' then
    if mark = 'x' ∨ mark = 'X' then
      advance 2
      readRadix 16 isHexDigit startsName start
    else if mark = 'b' ∨ mark = 'B' then
      advance 2
      readRadix 2 (fun digit => digit == '0' || digit == '1') startsWordOrDigit start
    else if mark = 'o' ∨ mark = 'O' then
      advance 2
      readRadix 8 isOctalDigit startsWordOrDigit start
    else if isOctalDigit mark &&
        isOctalNumeral (← slice (start + 2) (Reading.source ε (← get)).size) then
      advance 1
      let token ← readRadix 8 isOctalDigit startsWordOrDigit start
      return { token with octal := true }
    else readDecimal startsName start
  else readDecimal startsName start

/-- Read a text in quotation marks. An escape is read behind its backslash: it stands for code
points, and it may be octal. A text that is never closed has to end the run; `unclosed` is given its
start. -/
def readText (escape : EStateM ε σ (List Nat × Bool)) (unclosed : Nat → EStateM ε σ Unit) :
    EStateM ε σ Token := do
  let start := (← getCursor).index
  let mark ← take
  let (codes, octal, closed) ← iterate (([] : List Nat), false) fun (codes, octal) => do
    if ← atEnd then return .inr (codes, octal, false)
    let character ← take
    if character = mark then return .inr (codes, octal, true)
    if character = '\\' then
      let (escaped, isOctal) ← escape
      return .inl (escaped.reverse ++ codes, isOctal || octal)
    if isLineEnd character then return .inr (codes, octal, false)
    return .inl (character.toNat :: codes, octal)
  if !closed then unclosed start
  let token ← tokenFrom .text (textOf codes.reverse) start
  return { token with octal }

/-- How the characters of a piece of a template come to an end. -/
inductive PieceEnd where
  | closed
  | substitution
  | unfinished
  deriving DecidableEq

/-- Read a piece of a template: up to the closing mark or to a substitution. Escapes are read behind
their backslash. -/
def readTemplate (escape : EStateM ε σ Unit) : EStateM ε σ Token := do
  let start := (← getCursor).index
  let first ← take
  let ending ← iterate () fun _ => do
    if ← atEnd then return .inr PieceEnd.unfinished
    let character ← take
    if character = '\x60' then return .inr .closed
    if character = '$' ∧ (← peek) = '{' then
      openBrace .template
      advance 1
      return .inr .substitution
    if character = '\\' then escape
    else if isLineEnd character then endLine character
    return .inl ()
  if ending = .unfinished then failAtCursor
  let opens := first == '\x60'
  if !opens then closeBrace
  let margin := if ending = .closed then 1 else 2
  let raw := String.ofList (← slice (start + 1) ((← getCursor).index - margin))
  let token ← tokenFrom .template raw start
  return { token with opens, closes := ending == .closed }

/-- Read the body of a regular expression from the opening slash up to the closing one. A slash
within a class closes nothing, and no line may end. -/
def readPatternBody : EStateM ε σ (List Char) := do
  advance 1
  let (body, closed) ← iterate (([] : List Char), false) fun (body, inClass) => do
    if ← atEnd then return .inr (body, false)
    let character ← take
    if isLineEnd character then failAtCursor .unterminatedPattern
    if character = '\\' then
      let escaped ← take
      if isLineEnd escaped then failAtCursor .unterminatedPattern
      return .inl (escaped :: character :: body, inClass)
    if inClass then return .inl (character :: body, character != ']')
    if character = '/' then return .inr (body, true)
    return .inl (character :: body, character == '[')
  if !closed then failAtCursor .unterminatedPattern
  return body.reverse

end ScriptCheck.Grammar
