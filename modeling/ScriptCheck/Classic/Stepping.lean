import ScriptCheck.Classic.Lexeme

/-!
# Stepping through classic tokens

One token is read ahead. What has to come next is expected, and what does not fit ends the run.
-/

namespace ScriptCheck.Classic

open ScriptCheck.Grammar

/-- The token that is read next. -/
def lookahead : Parse Token := do
  match (← get).lookahead with
  | some token => return token
  | none => failAtCursor

/-- Read a token. -/
def nextToken : Parse Token := do
  let token ← lookahead
  stepOver
  return token

/-- Read a token and forget it. -/
def skipToken : Parse Unit := discard nextToken

/-- Whether the next token is one of some signs. -/
def isAtSign (signs : List String) : Parse Bool := do return (← lookahead).isSign signs

/-- Whether the next token is one of some keywords. -/
def isAtKeyword (words : List String) : Parse Bool := do return (← lookahead).isKeyword words

/-- Whether the source has come to its end. -/
def isAtEndOfFile : Parse Bool := do return (← lookahead).kind == .endOfFile

/-- Whether a line ended before the next token. -/
def lineEnded : Parse Bool := do return (← get).lineEnded

/-- Read a sign, which has to be next. -/
def expect (sign : String) : Parse Unit := do
  let token ← nextToken
  if !token.isSign [sign] then failUnexpected token

/-- Read a keyword, which has to be next. -/
def expectKeyword (word : String) : Parse Unit := do
  let token ← nextToken
  if !token.isKeyword [word] then failUnexpected token

/-- End a statement: at a semicolon, at a line end, before a closing brace or at the end. In the
last two cases the statement reaches up to there. -/
def endStatement : Parse Unit := do
  if ← isAtSign [";"] then skipToken
  else if !(← lineEnded) then
    modify fun state => { state with lastPlace := state.startPlace }
    let token ← lookahead
    if token.kind ≠ .endOfFile ∧ !token.isSign ["\x7d"] then failUnexpected token

/-- Read a phrase as if nothing stood around it: a default of a shorthand property in it is an
error. -/
def isolated {α : Type} (phrase : Parse α) : Parse α := do
  let outer ← getContext
  setContext fun context => { context with isAssignable := true, coverDefault := none }
  let result ← phrase
  match (← getContext).coverDefault with
  | some token => failUnexpected token
  | none => pure ()
  setContext fun context =>
    { context with isAssignable := outer.isAssignable, coverDefault := outer.coverDefault }
  return result

/-- Read a phrase that may become part of a pattern: what it spoils is spoiled for its
surroundings. -/
def inherited {α : Type} (phrase : Parse α) : Parse α := do
  let outer ← getContext
  setContext fun context => { context with isAssignable := true, coverDefault := none }
  let result ← phrase
  setContext fun context =>
    { context with
      isAssignable := context.isAssignable && outer.isAssignable
      coverDefault := outer.coverDefault <|> context.coverDefault }
  return result

/-- Note whether the phrase can be assigned to. -/
def becomeAssignable (isAssignable : Bool) : Parse Unit :=
  setContext fun context => { context with isAssignable }

/-- Read items until a sign comes next, and leave the sign. -/
def untilSign (sign : String) (item : Parse Unit) : Parse Unit :=
  iterate () fun _ => do
    if ← isAtSign [sign] then return .inr ()
    item
    return .inl ()

/-- Read items until a sign or the end of the source comes next. -/
def untilSignOrEnd (sign : String) (item : Parse Unit) : Parse Unit :=
  iterate () fun _ => do
    if (← isAtSign [sign]) ∨ (← isAtEndOfFile) then return .inr ()
    item
    return .inl ()

/-- Go on with items as long as a sign stands between them, which is read. -/
def whileSign (sign : String) (item : Parse Unit) : Parse Unit :=
  iterate () fun _ => do
    if !(← isAtSign [sign]) then return .inr ()
    skipToken
    item
    return .inl ()

end ScriptCheck.Classic
