import ScriptCheck.Grammar.Lexeme
import ScriptCheck.Modern.State

/-!
# Reading tokens

Words, texts, signs and pieces of templates, each from its first character on. `readToken` tells
tokens apart.
-/

namespace ScriptCheck.Modern

open ScriptCheck.Grammar
open ScriptCheck.Text (isDecimalDigit isOctalDigit textOf)

/-- Read the escape of a character of a name, behind the backslash. An escape with four digits has
to fit its place; one in braces may name anything. -/
def nameEscape (fits : Char → Bool) : Parse Nat := do
  if (← peek) ≠ 'u' then failAtCursor
  advance 1
  if (← peek) = '{' then
    advance 1
    bracedEscape
  else fourDigitEscape fits

/-- The names of the modern grammar. -/
def names : NameRules Failure State := ⟨startsModernName, continuesModernName, nameEscape⟩

/-- Read a name, a keyword or a literal that is a word. A keyword must be written without
escapes. -/
def readWord : Parse Token := do
  let start := (← getCursor).index
  let codes ← names.read
  let kind := wordKind (textOf codes)
  let stop := (← getCursor).index
  if kind ≠ .name ∧ start + codes.length ≠ stop then
    moveTo start
    tolerateAtCursor .escapedKeyword
    moveTo stop
  wordFrom kind codes start

/-- The signs of several characters, the longest first. -/
def longSigns : List String :=
  [">>>=", "...", "===", "!==", ">>>", "<<=", ">>=", "**=", "&&", "||", "==", "!=", "+=", "-=",
    "*=", "/=", "++", "--", "<<", ">>", "&=", "|=", "^=", "%=", "<=", ">=", "=>", "**"]

/-- Read an escape in a text, behind the backslash: the code points it stands for, and whether it is
octal. -/
def textEscape : Parse (List Nat × Bool) := do
  let letter ← take
  if isLineEnd letter then
    endLine letter
    return ([], false)
  if letter = 'u' then
    if (← peek) = '{' then
      advance 1
      return ([← bracedEscape], false)
    match ← hexEscape 4 0 with
    | some code => return ([code], false)
    | none => failAtCursor
  else if letter = 'x' then
    match ← hexEscape 2 0 with
    | some code => return ([code], false)
    | none => failAtCursor .invalidHexEscape
  else
    match simpleEscape? letter with
    | some code => return ([code], false)
    | none =>
        if letter = '8' ∨ letter = '9' then
          tolerateAtCursor
          return ([letter.toNat], false)
        else if isOctalDigit letter then
          let (code, octal) ← octalEscape letter
          return ([code], octal)
        else return ([letter.toNat], false)

/-- End the run because of a text that is never closed, at its start. -/
def failUnclosed (start : Nat) : Parse Unit := do
  moveTo start
  failAtCursor

/-- Read an escape in a template, behind the backslash. Octal escapes are not allowed, and a letter
`u` without its digits stands for itself. -/
def templateEscape : Parse Unit := do
  let letter ← take
  if isLineEnd letter then endLine letter
  else if letter = 'u' then
    if (← peek) = '{' then
      advance 1
      let _ ← bracedEscape
    else
      let back := (← getCursor).index
      if (← hexEscape 4 0).isNone then moveTo back
  else if letter = 'x' then
    if (← hexEscape 2 0).isNone then failAtCursor .invalidHexEscape
  else if letter = '0' then
    if isDecimalDigit (← peek) then failAtCursor .templateOctal
  else if isOctalDigit letter then failAtCursor .templateOctal

/-- Skip what stands between tokens. A module has no comments of markup, and a comment that is never
closed is tolerated. -/
def skipToToken : Parse Unit := do
  skipGap (!(← get).readsModule) tolerateAtCursor

/-- Read the token at the cursor. A closing brace goes on with a template if the last open brace was
that of a substitution. -/
def readToken : Parse Token := do
  if ← atEnd then tokenFrom .endOfFile "" (← getCursor).index
  else
    let first ← peek
    if startsModernName first then readWord
    else if first = '"' ∨ first = '\'' then readText textEscape failUnclosed
    else if isDecimalDigit first then readNumber startsModernName
    else if first = '.' ∧ isDecimalDigit (← peekAt 1) then readNumber startsModernName
    else if first = '\x60' then readTemplate templateEscape
    else if first = '}' ∧ (← getBraces).head? = some .template then readTemplate templateEscape
    else readSign longSigns

end ScriptCheck.Modern
