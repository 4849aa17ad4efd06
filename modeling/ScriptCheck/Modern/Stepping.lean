import ScriptCheck.Modern.Node
import ScriptCheck.Modern.PatternLiteral

/-!
# Stepping through tokens

One token is read ahead. Complaints about a token count its column from the start of the line on
which the token before it ended; complaints without a token stand at the end of that token.
-/

namespace ScriptCheck.Modern

open ScriptCheck.Grammar

/-- The token that is read next. -/
def lookahead : Parse Token := do return (← get).lookahead

/-- Read a token. In strict code, reserved names become keywords when they are read ahead. -/
def nextToken : Parse Token := do
  let token ← lookahead
  modify fun state => { state with lastMarker := state.cursorMarker }
  skipToToken
  modify fun state =>
    if state.cursor.index = state.startMarker.index then state
    else { state with startMarker := state.cursorMarker }
  let next ← readToken
  modify fun state =>
    let reserved := state.context.strict && next.kind == .name && isStrictReserved next.value
    { state with
      lineEnded := token.line != next.line
      lookahead := if reserved then { next with kind := .keyword } else next }
  return token

/-- Read a token and forget it. -/
def skipToken : Parse Unit := discard nextToken

/-- The token behind the one that is read next. The cursor goes back, but braces that were opened or
closed on the way stay noted. -/
def tokenBehind : Parse Token := do
  let cursor ← getCursor
  skipToToken
  let token ← readToken
  setCursor cursor
  return token

/-- Read a regular expression literal whose opening slash is the next token. -/
def nextPattern : Parse Unit := do
  let state ← get
  moveTo state.startMarker.index
  skipToToken
  let token ← readPattern
  modify fun state => { state with lookahead := token }
  skipToken

/-- The problem that a complaint is at a token. -/
def State.problemAt (state : State) (token : Token) (complaint : Complaint) : Problem :=
  let lineStart : Int := state.lastMarker.index - state.lastMarker.column
  ⟨token.line, token.start - lineStart + 1, complaint⟩

/-- End the run if a token cannot be shown. Every complaint about a token makes its text ready, even
one that does not show it. -/
def requireShown (token : Token) : Parse Unit := do
  if token.isTooLong (← getLimits) then throw .longNumber

/-- The problem that a complaint about a token is. -/
def problemAbout (token : Token) (complaint : Complaint) : Parse Problem := do
  requireShown token
  return (← get).problemAt token complaint

/-- The problem that a complaint is behind the last token. -/
def problemBehind (complaint : Complaint) : Parse Problem := do
  let marker := (← get).lastMarker
  return ⟨marker.line, marker.column + 1, complaint⟩

/-- The complaint about a token that fits nowhere. -/
def misfit (token : Token) : Parse Complaint := do
  return token.complaint (← getContext).strict

/-- End the run with a complaint about a token. -/
def failAbout {α : Type} (token : Token) (complaint : Complaint) : Parse α := do
  failWith (← problemAbout token complaint)

/-- End the run because a token fits nowhere. -/
def failUnexpected {α : Type} (token : Token) : Parse α := do
  failAbout token (← misfit token)

/-- End the run with a complaint behind the last token. -/
def failBehind {α : Type} (complaint : Complaint) : Parse α := do
  failWith (← problemBehind complaint)

/-- Log a complaint about a token. -/
def tolerateAbout (token : Token) (complaint : Complaint) : Parse Unit := do
  tolerate (← problemAbout token complaint)

/-- Log that a token fits nowhere. -/
def tolerateUnexpected (token : Token) : Parse Unit := do
  tolerateAbout token (← misfit token)

/-- Log a complaint behind the last token. Its line is that of the cursor, which may be further
on. -/
def tolerateBehind (complaint : Complaint) : Parse Unit := do
  let state ← get
  tolerate ⟨state.cursor.line, state.lastMarker.column + 1, complaint⟩

/-- Whether the next token is one of some signs. -/
def isAtSign (signs : List String) : Parse Bool := do return (← lookahead).isSign signs

/-- Whether the next token is one of some keywords. -/
def isAtKeyword (words : List String) : Parse Bool := do return (← lookahead).isKeyword words

/-- Whether the next token is a name of this spelling. -/
def isAtName (name : String) : Parse Bool := do return (← lookahead).isNamed name

/-- Whether the source has come to its end. -/
def isAtEndOfFile : Parse Bool := do return (← lookahead).kind == .endOfFile

/-- Whether a line ended before the next token. -/
def lineEnded : Parse Bool := do return (← get).lineEnded

/-- Read a sign, which has to be next. -/
def expect (sign : String) : Parse Unit := do
  let token ← nextToken
  if !token.isSign [sign] then failUnexpected token

/-- Read a keyword, which has to be next. -/
def expectKeyword (word : String) : Parse Unit := do
  let token ← nextToken
  if !token.isKeyword [word] then failUnexpected token

/-- Read a comma between items. A tolerant run takes a semicolon for one, and leaves any other token
where it is, with a complaint. -/
def expectSeparator : Parse Unit := do
  if (← get).tolerant then
    let token ← lookahead
    if token.isSign [","] then skipToken
    else if token.isSign [";"] then
      skipToken
      tolerateUnexpected token
    else tolerateAbout token (.unexpectedToken token.value)
  else expect ","

/-- End a statement: at a semicolon, at a line end, before a closing brace or at the end. -/
def endStatement : Parse Unit := do
  if ← isAtSign [";"] then skipToken
  else if !(← lineEnded) then
    let token ← lookahead
    if token.kind ≠ .endOfFile ∧ !token.isSign ["\x7d"] then failUnexpected token
    modify fun state => { state with lastMarker := state.startMarker }

/-- Read a phrase as if nothing stood around it: it is no part of a pattern, and a default of a
shorthand property in it is an error. -/
def isolated {α : Type} (phrase : Parse α) : Parse α := do
  let outer ← getContext
  setContext fun context =>
    { context with isBinding := true, isAssignable := true, coverDefault := none }
  let result ← phrase
  match (← getContext).coverDefault with
  | some token => failUnexpected token
  | none => pure ()
  setContext fun context =>
    { context with
      isBinding := outer.isBinding
      isAssignable := outer.isAssignable
      coverDefault := outer.coverDefault }
  return result

/-- Read a phrase that may become part of a pattern: what it spoils is spoiled for its
surroundings. -/
def inherited {α : Type} (phrase : Parse α) : Parse α := do
  let outer ← getContext
  setContext fun context =>
    { context with isBinding := true, isAssignable := true, coverDefault := none }
  let result ← phrase
  setContext fun context =>
    { context with
      isBinding := context.isBinding && outer.isBinding
      isAssignable := context.isAssignable && outer.isAssignable
      coverDefault := outer.coverDefault <|> context.coverDefault }
  return result

/-- Note that the phrase is neither a target nor a pattern. -/
def spoil : Parse Unit :=
  setContext fun context => { context with isAssignable := false, isBinding := false }

/-- Note that the phrase can be assigned to but is no pattern. -/
def becomeMember : Parse Unit :=
  setContext fun context => { context with isAssignable := true, isBinding := false }

/-- Read items until a sign comes next, and leave the sign. -/
def untilSign {α : Type} (sign : String) (item : Parse α) : Parse (List α) := do
  let items ← iterate ([] : List α) fun items => do
    if ← isAtSign [sign] then return .inr items
    return .inl ((← item) :: items)
  return items.reverse

end ScriptCheck.Modern
