import ScriptCheck.Checker
import ScriptCheck.Dump
import ScriptCheck.Report

/-!
# Sessions

A session holds a source text and a result, and writes reports and dumps of them to one stream.
Every step answers with what it wrote and logged, and with a signal or a fault; a fault leaves the
result as it was.
-/

namespace ScriptCheck

/-- What a session holds. -/
structure Session where
  filepath : String
  source : List Char := []
  result : Result := .success []
  /-- Everything that was written so far. -/
  written : List Char := []
  deriving Repr

namespace Session

/-- What can be done in a session. -/
inductive Step where
  | source (text : List Char)
  | check (setting : Setting) (grammar : String)
  | result (result : Result)
  | load (object : ErrorObject)
  | drop (index : Int)
  | report
  | verdict
  | dump
  deriving Repr

/-- The answer to a step. Only reports give a signal. -/
structure Reply where
  written : List Char := []
  events : List Event := []
  outcome : Except Fault (Option Signal) := .ok none

/-- A list without the item at an index, where indexes below zero count from the end. -/
def dropAt {α : Type} (items : List α) (index : Int) : Except Fault (List α) :=
  let place := if index < 0 then index + items.length else index
  if 0 ≤ place ∧ place < items.length then .ok (items.eraseIdx place.toNat)
  else if !Report.fitsIndex index then .error .dropTooLarge
  else if items.isEmpty then .error .dropFromEmpty
  else .error .dropOutOfRange

/-- A session that holds another result. -/
def withResult (session : Session) (result : Result) : Session := { session with result }

/-- Write a text. -/
def write (session : Session) (text : List Char) : Session :=
  { session with written := session.written ++ text }

/-- Write a report on the records that are held. What was written before a fault stays. -/
def reporting (limits : Limits) (session : Session) (signal : Signal) : Session × Reply :=
  let report := Report.make limits session.filepath session.source session.result.records
  let outcome := match report.fault with
    | some fault => .error fault
    | none => .ok (some signal)
  (session.write report.written, { written := report.written, events := report.events, outcome })

/-- Change the result that is held, unless there is a fault. -/
def changing (session : Session) (events : List Event) (changed : Except Fault Result) :
    Session × Reply :=
  match changed with
  | .ok result => (session.withResult result, { events })
  | .error fault => (session, { events, outcome := .error fault })

/-- A result with other records, unless there is a fault. -/
def changingRecords (session : Session) (changed : Except Fault (List Record)) : Session × Reply :=
  session.changing [] (changed.map fun records => { session.result with records })

/-- Write a dump of the records that are held, unless there is a fault. -/
def dumping (limits : Limits) (session : Session) : Session × Reply :=
  match Dump.text limits session.filepath session.result.records with
  | .ok text => (session.write text, { written := text })
  | .error fault => (session, { outcome := .error fault })

/-- Take a step. -/
def step (grammars : Grammars) (session : Session) : Step → Session × Reply
  | .source text => ({ session with source := text }, {})
  | .check setting grammar =>
      let logged := grammars.check session.source setting grammar
      session.changing logged.events logged.outcome
  | .result result => (session.withResult result, {})
  | .load object =>
      session.changingRecords
        ((Record.load grammars.limits object).map fun record =>
          session.result.records ++ [record])
  | .drop index => session.changingRecords (dropAt session.result.records index)
  | .report => session.reporting grammars.limits (Report.signal session.result.records)
  | .verdict => session.reporting grammars.limits (Report.verdict session.result)
  | .dump => session.dumping grammars.limits

/-- Take steps in order. The answer pairs every reply with the session after it. -/
def run (grammars : Grammars) (session : Session) : List Step → List (Session × Reply)
  | [] => []
  | step :: steps =>
      let after := session.step grammars step
      after :: run grammars after.1 steps

end Session

end ScriptCheck
