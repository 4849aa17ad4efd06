import ScriptCheck.Grammar.Reader

/-!
# State of a classic run

A run reads the source from left to right and ends at the first thing that is wrong. It reads a
suffix behind the source as well, so that it always stops at a token before the source runs out.
Complaints have a line and an offset; the line may be one behind the source.
-/

namespace ScriptCheck.Classic

open ScriptCheck.Grammar

/-- What ends a run. -/
inductive Failure where
  /-- Something is wrong at an offset. The line is the one that the complaint names. -/
  | complaint (line offset : Nat) (complaint : Complaint)
  /-- A brace closes that was never opened. -/
  | unopenedBrace
  /-- The source nests too deeply, or its tree is too tall. -/
  | tooDeep
  /-- A complaint is about a number that is too long to be shown. -/
  | longNumber
  deriving DecidableEq, Repr, Inhabited

/-- A place between tokens. -/
structure Place where
  index : Nat
  line : Nat
  deriving DecidableEq, Repr, Inhabited

/-- What the code around the current token allows. -/
structure Context where
  allowIn : Bool := true
  /-- The equals sign of a shorthand property with a default, which only a pattern may have. -/
  coverDefault : Option Token := none
  isAssignable : Bool := false
  inFunction : Bool := false
  inLoop : Bool := false
  inSwitch : Bool := false
  labels : List Name := []
  strict : Bool := false
  deriving Repr, Inhabited

/-- The state of a run. -/
structure State where
  /-- The limits of the machine that the run is on. -/
  limits : Limits
  source : Array Char
  cursor : Cursor := ⟨0, 1, 0⟩
  braces : List Brace := []
  /-- The token that is read next, once there is one. -/
  lookahead : Option Token := none
  /-- Whether a line ended between the last two tokens. -/
  lineEnded : Bool := false
  /-- The place behind the last token. -/
  lastPlace : Place := ⟨0, 1⟩
  /-- The place of the token that is read next. -/
  startPlace : Place := ⟨0, 1⟩
  context : Context := {}
  /-- The height of the tallest tree of an expression. -/
  tallest : Nat := 0
  deriving Repr, Inhabited

/-- A step of a run. The state outlives a failure. -/
abbrev Parse := EStateM Failure State

namespace State

/-- What is read behind a source: a line end and an empty statement. -/
def suffix : List Char := " \n ; //END".toList

/-- The state before the first token. -/
def initial (limits : Limits) (source : List Char) : State :=
  { limits, source := (source ++ suffix).toArray }

/-- The place of the cursor. -/
def cursorPlace (state : State) : Place := ⟨state.cursor.index, state.cursor.line⟩

end State

instance : Reading Failure State where
  source := State.source
  cursor := State.cursor
  move cursor state := { state with cursor }
  braces := State.braces
  nest braces state := { state with braces }
  failure complaint state := .complaint state.cursor.line state.cursor.index complaint

/-- Change what the code allows. -/
def setContext (change : Context → Context) : Parse Unit :=
  modify fun state => { state with context := change state.context }

/-- What the code allows. -/
def getContext : Parse Context := do return (← get).context

/-- The limits of the machine. -/
def getLimits : Parse Limits := do return (← get).limits

/-- End the run with a complaint behind the last token. -/
def failBehind {α : Type} (complaint : Complaint) : Parse α := do
  let place := (← get).lastPlace
  throw (.complaint place.line place.index complaint)

/-- End the run with a complaint about a token, which has to be fit to be shown. -/
def failAbout {α : Type} (token : Token) (complaint : Complaint) : Parse α := do
  let limits ← getLimits
  throw (if token.isTooLong limits then .longNumber
    else .complaint token.line token.start complaint)

/-- End the run because a token fits nowhere. -/
def failUnexpected {α : Type} (token : Token) : Parse α := do
  failAbout token (token.complaint (← getContext).strict)

/-- End the run because the grammar has no such feature. The offset is that behind the last token,
but the line is the one up to which the source was read. -/
def failUnsupported {α : Type} (feature : String) : Parse α := do
  let state ← get
  throw (.complaint state.cursor.line state.lastPlace.index (.unsupported feature))

end ScriptCheck.Classic
