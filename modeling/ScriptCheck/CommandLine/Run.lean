import ScriptCheck.Checker
import ScriptCheck.CommandLine.Arguments
import ScriptCheck.CommandLine.Usage
import ScriptCheck.Dump
import ScriptCheck.Files.Tree
import ScriptCheck.Report
import ScriptCheck.Text.Utf8

/-!
# Running a call

A call reads one file, checks it, writes the dump if one is asked for, and shows the report last. It
touches no other file. Warnings are always shown, other events only if the call is verbose.
-/

namespace ScriptCheck.CommandLine

open ScriptCheck.Files

/-- What a call printed, and how it ended: with an exit code or with a fault. -/
structure Ended where
  stdout : List Char := []
  stderr : List Char := []
  ending : Except Fault Nat

/-- The end of a call that is refused, behind what it has printed before. -/
def refused (message : String) (before : List Char := []) : Ended :=
  { stderr := before ++ (complaint message).toList, ending := .ok 2 }

/-- Whether an event is shown. -/
def isShown (verbose : Bool) (event : Event) : Bool := verbose || event.level == .warning

/-- The lines of the events that are shown. -/
def logText (limits : Limits) (verbose : Bool) (events : List Event) : List Char :=
  (events.filter (isShown verbose)).flatMap fun event => (event.logLine limits).toList

/-- What is shown of a report. -/
def reportText (limits : Limits) (verbose : Bool) (items : List Report.Item) : List Char :=
  items.flatMap fun item =>
    match item with
    | .event event => logText limits verbose [event]
    | .block text => text

/-- The source text of a file. -/
def sourceOf (octets : List UInt8) : List Char := Text.unifyLineEnds (Text.Utf8.decode octets)

/-- The setting of a call. -/
def Invocation.setting (invocation : Invocation) : Setting :=
  { tolerant := !invocation.strict, isModule := invocation.isModule }

/-- Check a source as a call asks for. -/
def Invocation.check (invocation : Invocation) (grammars : Grammars) (source : List Char) :
    Logged Result :=
  match invocation.dialect with
  | .text name => grammars.check source invocation.setting name
  | .nothing => ⟨[], .error (.mismatch (.looksUpKey "list"))⟩

/-- The end of a call that has come to its report. -/
def reported (limits : Limits) (invocation : Invocation) (source : List Char) (result : Result)
    (before : List Char) : Ended :=
  let report := Report.make limits invocation.file source result.records
  { stderr := before ++ reportText limits invocation.verbose report.items
    ending := match report.fault with
      | some fault => .error fault
      | none => .ok (Report.verdict result).code }

/-- Whether a path can be handed to the system at all. -/
def isPath (path : String) : Bool := !path.toList.contains '\x00'

variable {m : Type → Type} [Monad m] (access : FileAccess m)

/-- Write the dump of a result if it is asked for. What is wrong with that ends the call. The file
is opened first, so one that can be opened is left empty where the dump cannot be written. -/
def writeDump (limits : Limits) (invocation : Invocation) (result : Result) (before : List Char) :
    m (Except Ended Unit) :=
  match invocation.dump with
  | none => return .ok ()
  | some .nothing =>
      return .error { stderr := before, ending := .error (.mismatch (.opensPath "list")) }
  | some (.text path) => do
      if !isPath path then return .error { stderr := before, ending := .error .nullInPath }
      let dumped := Dump.text limits invocation.file result.records
      let octets := match dumped with
        | .ok text => Text.Utf8.encode text
        | .error _ => []
      match ← access.write path octets, dumped with
      | .error problem, _ =>
          return .error (refused ("cannot write " ++ path ++ ": " ++ problem.reason) before)
      | .ok _, .error fault => return .error { stderr := before, ending := .error fault }
      | .ok _, .ok _ => return .ok ()

/-- Check a source, and dump and report what was found. -/
def checkSource (grammars : Grammars) (invocation : Invocation) (source : List Char) :
    m Ended := do
  let logged := invocation.check grammars source
  let before := logText grammars.limits invocation.verbose logged.events
  match logged.outcome with
  | .error fault => return { stderr := before, ending := .error fault }
  | .ok result =>
      let finished :=
        Event.finished invocation.file result.records.length result.verdict.isStopped
      let before := before ++ logText grammars.limits invocation.verbose [finished]
      match ← writeDump access grammars.limits invocation result before with
      | .error ended => return ended
      | .ok _ => return reported grammars.limits invocation source result before

/-- Run a call. -/
def run (grammars : Grammars) (arguments : List String) : m Ended := do
  match parse arguments with
  | .error problem => return refused problem.message
  | .ok .help => return { stdout := help.toList, ending := .ok 0 }
  | .ok (.check invocation) =>
      if !isPath invocation.file then return { ending := .error .nullInPath }
      match ← access.read invocation.file with
      | .error problem =>
          return refused ("cannot read " ++ invocation.file ++ ": " ++ problem.reason)
      | .ok octets => checkSource access grammars invocation (sourceOf octets)

end ScriptCheck.CommandLine
