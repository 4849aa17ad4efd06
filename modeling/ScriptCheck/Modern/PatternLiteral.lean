import ScriptCheck.Modern.Lexeme
import ScriptCheck.Pattern.Basic

/-!
# Regular expression literals

A literal is a body between slashes and flags behind it. A body that is no pattern is tolerated, at
the place behind the flags.
-/

namespace ScriptCheck.Modern

open ScriptCheck.Grammar

/-- Read the flags, which are any characters of names. Escapes in them are tolerated. -/
def readPatternFlags : Parse Unit :=
  iterate () fun _ => do
    if ← atEnd then return .inr ()
    let character ← peek
    if !continuesModernName character then return .inr ()
    advance 1
    if character = '\\' ∧ !(← atEnd) then
      if (← peek) = 'u' then
        advance 1
        let back := (← getCursor).index
        if (← hexEscape 4 0).isNone then moveTo back
      tolerateAtCursor
    return .inl ()

/-- Log a complaint at the cursor several times. -/
def tolerateTimes (complaint : Complaint) : Nat → Parse Unit
  | 0 => return
  | count + 1 => do
      tolerateAtCursor complaint
      tolerateTimes complaint count

/-- Check that a body is a pattern, with escaped code points put in place first. -/
def checkPattern (body : List Char) : Parse Unit := do
  let (codes, excess) := Pattern.unescape (body.length + 1) body
  tolerateTimes .invalidPattern excess
  if !Pattern.isValid (← getLimits) (Pattern.pairSurrogates codes) then
    tolerateAtCursor .invalidPattern

/-- Read a regular expression literal. -/
def readPattern : Parse Token := do
  let start := (← getCursor).index
  let body ← readPatternBody
  readPatternFlags
  checkPattern body
  tokenFrom .pattern "" start

end ScriptCheck.Modern
