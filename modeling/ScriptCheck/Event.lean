import ScriptCheck.Value.Text

/-!
# Events

What the library logs, as data. An event knows its level, its channel and its message; a listener
decides what to show.
-/

namespace ScriptCheck

/-- The two grammars. The modern one knows modules and goes on after an error if asked to; the
classic one knows scripts only and stops at the first error. -/
inductive Dialect where
  | modern
  | classic
  deriving DecidableEq, Repr

/-- The name by which a caller chooses a dialect. -/
def Dialect.name : Dialect → String
  | .modern => "esprima"
  | .classic => "pyjsparser"

/-- The dialect of a name. -/
def Dialect.ofName? (name : String) : Option Dialect :=
  if name = Dialect.modern.name then some .modern
  else if name = Dialect.classic.name then some .classic
  else none

/-- How much an event matters. -/
inductive Level where
  | debug
  | warning
  deriving DecidableEq, Repr

/-- The name of a level in a log. -/
def Level.name : Level → String
  | .debug => "DEBUG"
  | .warning => "WARNING"

/-- Something worth telling. -/
inductive Event where
  | checking (length : Nat) (dialect : Dialect)
  | moduleIgnored
  | neverTolerant
  | gaveUp (text : String)
  | crashed (dialect : Dialect)
  | pastTheEnd (filepath : String) (line : Int) (count : Nat)
  | finished (filepath : String) (count : Nat) (stopped : Bool)
  deriving DecidableEq, Repr

namespace Event

/-- Ignoring a setting and missing a line are warnings. -/
def level : Event → Level
  | .moduleIgnored | .pastTheEnd .. => .warning
  | _ => .debug

/-- The part of the program that speaks. -/
def channel : Event → String
  | .pastTheEnd .. => "jsvalidate.reporter"
  | .finished .. => "jsvalidate.cli"
  | _ => "jsvalidate.jsparser"

/-- The wording of an event. Lengths and counts of what a machine holds are always written, but the
line of a record may have too many digits. -/
def message (limits : Limits) : Event → Except Fault String
  | .checking length dialect =>
      .ok ("parsing " ++ String.ofList (Text.decimal length) ++ " characters with " ++ dialect.name)
  | .moduleIgnored => .ok "pyjsparser has no module grammar, parsing as a script"
  | .neverTolerant => .ok "pyjsparser is never tolerant, the first error is fatal"
  | .gaveUp text => .ok ("esprima gave up: " ++ text)
  | .crashed dialect => .ok (dialect.name ++ " crashed")
  | .pastTheEnd filepath line count => do
      let shown ← limits.decimal line
      return filepath ++ ": line " ++ String.ofList shown ++
        " is past the end of the file (" ++ String.ofList (Text.decimal count) ++ " lines)"
  | .finished filepath count stopped =>
      .ok (filepath ++ ": " ++ String.ofList (Text.decimal count) ++ " error(s), fatal=" ++
        (if stopped then "True" else "False"))

/-- An event as a line of a log. The traces of calls that a listener prints below the line of a
crash, and in place of a line that cannot be made, are left out. -/
def logLine (limits : Limits) (event : Event) : String :=
  match event.message limits with
  | .ok message => event.level.name ++ ":" ++ event.channel ++ ":" ++ message ++ "\n"
  | .error _ => ""

end Event

end ScriptCheck
