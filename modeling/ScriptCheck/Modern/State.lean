import ScriptCheck.Grammar.Reader
import ScriptCheck.Grammar.Token

/-!
# State of a modern run

A run reads the source from left to right. A tolerant run keeps going behind errors that it can
tolerate, and logs them in the state, which outlives a failure. A strict run ends at the first of
them.
-/

namespace ScriptCheck.Modern

open ScriptCheck.Grammar

/-- What ends a run. -/
inductive Failure where
  /-- The source is wrong in a way that cannot be tolerated. -/
  | problem (problem : Problem)
  /-- An expression starts inside a template. -/
  | headlessTemplate
  /-- The source nests too deeply. -/
  | tooDeep
  /-- A complaint is about a number that is too long to be shown. -/
  | longNumber
  deriving DecidableEq, Repr, Inhabited

/-- A place between tokens. The column counts from zero. -/
structure Marker where
  index : Nat
  line : Nat
  column : Int
  deriving DecidableEq, Repr, Inhabited

/-- What the code around the current token allows. -/
structure Context where
  isModule : Bool := false
  allowAwait : Bool := false
  allowIn : Bool := true
  allowDirective : Bool := true
  allowYield : Bool := true
  /-- The equals sign of a shorthand property with a default, which only a pattern may have. -/
  coverDefault : Option Token := none
  isAssignable : Bool := false
  isBinding : Bool := false
  inFunction : Bool := false
  inLoop : Bool := false
  inSwitch : Bool := false
  labels : List Name := []
  strict : Bool := false
  deriving Repr, Inhabited

/-- The state of a run. -/
structure State where
  /-- The limits of the machine that the run is on. -/
  limits : Limits
  source : Array Char
  /-- Whether the run goes on behind errors that it can tolerate. -/
  tolerant : Bool := true
  cursor : Cursor
  braces : List Brace := []
  /-- Whether the reader knows that it reads a module, where comments of markup are no comments. -/
  readsModule : Bool := false
  lookahead : Token
  /-- Whether a line ended between the last two tokens. -/
  lineEnded : Bool := false
  lastMarker : Marker
  startMarker : Marker
  context : Context := {}
  /-- The tolerated problems, the latest first. -/
  tolerated : List Problem := []
  deriving Repr, Inhabited

/-- A step of a run. The state outlives a failure. -/
abbrev Parse := EStateM Failure State

namespace State

/-- The state before the first token. An empty source has no line. -/
def initial (limits : Limits) (source : Array Char) (tolerant : Bool := true) : State :=
  let line := if source.isEmpty then 0 else 1
  { limits
    source
    tolerant
    cursor := ⟨0, line, 0⟩
    lookahead := { kind := .endOfFile, value := "", line, start := 0, stop := 0 }
    lastMarker := ⟨0, line, 0⟩
    startMarker := ⟨0, line, 0⟩ }

/-- The number of columns that the cursor is behind the start of its line. -/
def cursorColumn (state : State) : Int :=
  (state.cursor.index : Int) - state.cursor.lineStart

/-- The place of the cursor. -/
def cursorMarker (state : State) : Marker :=
  ⟨state.cursor.index, state.cursor.line, state.cursorColumn⟩

end State

/-- A complaint at the cursor. -/
def State.problemAtCursor (complaint : Complaint) (state : State) : Problem :=
  ⟨state.cursor.line, state.cursorColumn + 1, complaint⟩

instance : Reading Failure State where
  source := State.source
  cursor := State.cursor
  move cursor state := { state with cursor }
  braces := State.braces
  nest braces state := { state with braces }
  failure complaint state := .problem (state.problemAtCursor complaint)

/-- End the run. -/
def failWith {α : Type} (problem : Problem) : Parse α := throw (.problem problem)

/-- Log a problem and go on. A strict run ends with it. -/
def tolerate (problem : Problem) : Parse Unit := do
  if (← get).tolerant then
    modify fun state => { state with tolerated := problem :: state.tolerated }
  else failWith problem

/-- Log a complaint at the cursor. -/
def tolerateAtCursor (complaint : Complaint := Complaint.illegal) : Parse Unit := do
  tolerate ((← get).problemAtCursor complaint)

/-- Change what the code allows. -/
def setContext (change : Context → Context) : Parse Unit :=
  modify fun state => { state with context := change state.context }

/-- What the code allows. -/
def getContext : Parse Context := do return (← get).context

/-- The limits of the machine. -/
def getLimits : Parse Limits := do return (← get).limits

end ScriptCheck.Modern
