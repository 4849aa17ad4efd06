import ScriptCheck.Classic.Program
import ScriptCheck.Outcome

/-!
# Checking with the classic grammar

What a run of the classic grammar hands to its caller, and what it leaves behind.
-/

namespace ScriptCheck.Classic

open ScriptCheck.Grammar

/-- How a run that failed ends. -/
def Failure.ending (limits : Limits) : Failure → ClassicEnd
  | .complaint line _ found => .refused (Raised.ofArgument "JsSyntaxError" (found.text line) [])
  | .unopenedBrace => .broken (Raised.ofArgument "IndexError" "list index out of range" [])
  | .tooDeep =>
      .broken (Raised.ofArgument "RecursionError" "maximum recursion depth exceeded" [])
  | .longNumber => .broken (Raised.ofArgument "ValueError" (excessText limits.mostDigits) [])

/-- The offset of a failure, if it is a complaint. -/
def Failure.offset? : Failure → Option Nat
  | .complaint _ offset _ => some offset
  | _ => none

/-- The token that is read next, as far as a caller sees it. -/
def State.shownLookahead (state : State) : Value :=
  match state.lookahead with
  | some token => .mapping [("start", .int token.start)]
  | none => .null

/-- The outcome of a run that ended so, in a state. -/
def State.outcome (state : State) (ending : ClassicEnd) (errorOffset : Option Nat) :
    ClassicOutcome where
  ending := ending
  errorOffset := errorOffset.map fun offset => .int offset
  lookahead := state.shownLookahead
  index := .int state.cursor.index

/-- The outcome of a check. -/
def outcome (limits : Limits) (source : List Char) : ClassicOutcome :=
  match program limits (.initial limits source) with
  | .ok _ state => state.outcome (.tree (.text "Program")) none
  | .error failure state => state.outcome (failure.ending limits) failure.offset?

end ScriptCheck.Classic
