import ScriptCheck.Classic.State
import ScriptCheck.Grammar.Lexeme

/-!
# Reading classic tokens

Words, texts, signs and pieces of templates, and the step from one token to the next.
-/

namespace ScriptCheck.Classic

open ScriptCheck.Grammar
open ScriptCheck.Text (isDecimalDigit isOctalDigit textOf)

/-- Read the escape of a character of a name, behind the backslash. It has four digits. -/
def nameEscape (fits : Char → Bool) : Parse Nat := do
  if (← peek) ≠ 'u' then failAtCursor
  advance 1
  fourDigitEscape fits

/-- The names of the classic grammar. -/
def names : NameRules Failure State := ⟨startsClassicName, continuesClassicName, nameEscape⟩

/-- Read a name, a keyword or a literal that is a word. In strict code, reserved names are keywords.
`pyimport` always is one, but nothing begins with it. -/
def readWord : Parse Token := do
  let start := (← getCursor).index
  let codes ← names.read
  let value := textOf codes
  let reserved := value == "pyimport" || ((← getContext).strict && isStrictReserved value)
  wordFrom (if reserved then .keyword else wordKind value) codes start

/-- The signs of several characters, the longest first. -/
def longSigns : List String :=
  [">>>=", "===", "!==", ">>>", "<<=", ">>=", "&&", "||", "==", "!=", "+=", "-=", "*=", "/=",
    "++", "--", "<<", ">>", "&=", "|=", "^=", "%=", "<=", ">=", "=>"]

/-- Read the digits of an escape behind its letter. Both letters take an escape in braces. -/
def digitEscape (letter : Char) : Parse (Option Nat) := do
  if (← peek) = '{' then
    advance 1
    return some (← bracedEscape)
  hexEscape (if letter = 'u' then 4 else 2) 0

/-- Read an escape in a text, behind the backslash: the code points it stands for, and whether it is
octal. -/
def textEscape : Parse (List Nat × Bool) := do
  let letter ← take
  if isLineEnd letter then
    endLine letter
    return ([], false)
  if letter = 'u' ∨ letter = 'x' then
    match ← digitEscape letter with
    | some code => return ([code], false)
    | none => failAtCursor
  match simpleEscape? letter with
  | some code => return ([code], false)
  | none =>
      if isOctalDigit letter then
        let (code, octal) ← octalEscape letter
        return ([code], octal)
      return ([letter.toNat], false)

/-- Read an escape in a template, behind the backslash. Octal escapes are not allowed, and a letter
without its digits stands for itself. -/
def templateEscape : Parse Unit := do
  let letter ← take
  if isLineEnd letter then endLine letter
  else if letter = 'u' ∨ letter = 'x' then
    let back := (← getCursor).index
    if (← digitEscape letter).isNone then moveTo back
  else if letter = '0' then
    if isDecimalDigit (← peek) then failBehind .templateOctal
  else if isOctalDigit letter then failBehind .templateOctal

/-- Read the token at the cursor. A closing brace goes on with a template if the last open brace was
that of a substitution, and there must be an open one. -/
def readToken : Parse Token := do
  if ← atEnd then tokenFrom .endOfFile "" (← getCursor).index
  else
    let first ← peek
    if startsClassicName first then readWord
    else if first = '"' ∨ first = '\'' then readText textEscape fun _ => failAtCursor
    else if isDecimalDigit first then readNumber startsClassicName
    else if first = '.' ∧ isDecimalDigit (← peekAt 1) then readNumber startsClassicName
    else if first = '\x60' then readTemplate templateEscape
    else if first = '}' then
      match ← getBraces with
      | [] => throw .unopenedBrace
      | .template :: _ => readTemplate templateEscape
      | .plain :: _ => readSign longSigns
    else readSign longSigns

/-- Skip what stands between tokens. A comment that is never closed ends the run. -/
def skipToToken : Parse Unit := do
  let before ← getCursor
  skipGap true failAtCursor
  let after ← getCursor
  modify fun state => { state with lineEnded := before.line != after.line }

/-- Note where the next token starts, and read it ahead. -/
def readAhead : Parse Unit := do
  modify fun state => { state with startPlace := state.cursorPlace }
  let token ← readToken
  modify fun state => { state with lookahead := some token }

/-- Read the first token ahead. Nothing stands before it but gaps. -/
def readFirst : Parse Unit := do
  skipToToken
  modify fun state => { state with lastPlace := state.cursorPlace }
  readAhead

/-- Read the token ahead of the one that is read next. -/
def stepOver : Parse Unit := do
  modify fun state => { state with lastPlace := state.cursorPlace }
  skipToToken
  readAhead

/-- Read the flags of a regular expression, which are characters of names. They may not have
escapes. -/
def readPatternFlags : Parse Unit :=
  iterate () fun _ => do
    if ← atEnd then return .inr ()
    let character ← peek
    if !continuesClassicName character then return .inr ()
    advance 1
    if character = '\\' ∧ !(← atEnd) then
      if (← peek) = 'u' then
        advance 1
        let back := (← getCursor).index
        if (← hexEscape 4 0).isNone then moveTo back
      failAtCursor
    return .inl ()

/-- Read a regular expression whose opening slash is the next token. Any body will do. While it is
read there is no next token. -/
def nextPattern : Parse Unit := do
  moveTo (← get).startPlace.index
  modify fun state => { state with lookahead := none }
  discard readPatternBody
  readPatternFlags
  stepOver

end ScriptCheck.Classic
