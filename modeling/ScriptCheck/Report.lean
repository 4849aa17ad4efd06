import ScriptCheck.Event
import ScriptCheck.Result
import ScriptCheck.Text.Lines

/-!
# Reports

A report shows each record as a block of five lines: the source line, a caret under the column, the
message, the place, and a rule. A record that cannot be shown ends the report after the blocks
before it; nothing of its own block is written.
-/

namespace ScriptCheck

namespace Report

/-- The line of dashes under each block. -/
def rule : List Char := List.replicate 68 '-'

/-- The integers that an index or a count may have: those of 64 bits with a sign. -/
def fitsIndex (number : Int) : Bool :=
  -9223372036854775808 ≤ number && number < 9223372036854775808

/-- Whether a line number lies past the last of `count` lines. -/
def isPastEnd (line : Value) (count : Nat) : Except Fault Bool :=
  match line with
  | .bool truth => .ok ((count : Int) < Value.ofTruth truth)
  | .int number => .ok ((count : Int) < number)
  | .float .nan => .ok false
  | .float (.infinite negative) => .ok (!negative)
  | .float (.finite negative significand exponent) =>
      .ok (Number.Binary64.compareInt negative significand exponent count == .gt)
  | value => .error (.mismatch (.operands .exceeds value.typeName "int"))

/-- The item at an index, where indexes below zero count from the end. An index without an item is
told apart from one that no index can be. -/
def fromEitherEnd {α : Type} (items : List α) (index : Int) : Except Fault α :=
  let place := if index < 0 then index + items.length else index
  match if place < 0 then none else items[place.toNat]? with
  | some item => .ok item
  | none => .error (if fitsIndex index then .indexOutOfRange else .indexTooLarge)

/-- The source line of a record with the events on the way. Past the end there is an empty line and
a warning, which is lost if its line is no whole number; a line number of zero or below counts from
the end. -/
def sourceLine (filepath : String) (lines : List (List Char)) (record : Record) :
    List Event × Except Fault (List Char) :=
  match isPastEnd record.line lines.length with
  | .error fault => ([], .error fault)
  | .ok true =>
      match record.line.wholeNumber with
      | .error _ => ([], .ok [])
      | .ok number => ([.pastTheEnd filepath number lines.length], .ok [])
  | .ok false =>
      match record.line.integer? with
      | some number => ([], fromEitherEnd lines (number - 1))
      | none => ([], .error (.mismatch (.indexesByInteger record.line.typeName)))

/-- The spaces before the caret. -/
def indentation (column : Value) : Except Fault (List Char) :=
  match column with
  | .bool truth => .ok (List.replicate (Value.ofTruth truth - 1).toNat ' ')
  | .int number =>
      if fitsIndex (number - 1) then .ok (List.replicate (number - 1).toNat ' ')
      else .error .countTooLarge
  | .float _ => .error (.mismatch (.repeatsByInteger column.typeName))
  | value => .error (.mismatch (.operands .minus value.typeName "int"))

/-- The characters of a message. -/
def messageText (message : Value) : Except Fault (List Char) :=
  match message with
  | .text characters => .ok characters.toList
  | .list _ => .error (.mismatch .joinsListsOnly)
  | .bytes _ => .error (.mismatch .joinsBytesOnly)
  | value => .error (.mismatch (.operands .plus value.typeName "str"))

/-- The block below the source line. The place is written last, and its line before its column. -/
def remainder (limits : Limits) (filepath : String) (record : Record) :
    Except Fault (List Char) := do
  let spaces ← indentation record.column
  let message ← messageText record.message
  let line ← record.line.decimal limits
  let column ← record.column.decimal limits
  return spaces ++ "^\n".toList ++ message ++ "\n    at (".toList ++ filepath.toList ++ [':'] ++
    line ++ [':'] ++ column ++ ")\n".toList ++ rule ++ ['\n']

/-- The block of a record with the events on the way. -/
def block (limits : Limits) (filepath : String) (lines : List (List Char)) (record : Record) :
    List Event × Except Fault (List Char) :=
  match sourceLine filepath lines record with
  | (events, .error fault) => (events, .error fault)
  | (events, .ok line) =>
      (events, (remainder limits filepath record).map fun below => line ++ '\n' :: below)

end Report

/-- What a report hands out, bit by bit. -/
inductive Report.Item where
  | event (event : Event)
  | block (text : List Char)
  deriving DecidableEq, Repr

/-- What a report handed out, and the fault that ended it, if any. The events of a record stand
directly before its block. -/
structure Report where
  items : List Report.Item
  fault : Option Fault
  deriving Repr

namespace Report

/-- The blocks of a report. -/
def blocks (report : Report) : List (List Char) :=
  report.items.filterMap fun item =>
    match item with
    | .event _ => none
    | .block text => some text

/-- The text of a report. -/
def written (report : Report) : List Char := report.blocks.flatten

/-- The events of a report. -/
def events (report : Report) : List Event :=
  report.items.filterMap fun item =>
    match item with
    | .event event => some event
    | .block _ => none

/-- The report on records against lines. -/
def ofLines (limits : Limits) (filepath : String) (lines : List (List Char)) :
    List Record → Report
  | [] => ⟨[], none⟩
  | record :: records =>
      match block limits filepath lines record with
      | (events, .error fault) => ⟨events.map .event, some fault⟩
      | (events, .ok text) =>
          let rest := ofLines limits filepath lines records
          ⟨events.map .event ++ .block text :: rest.items, rest.fault⟩

/-- The report on records against a source text. -/
def make (limits : Limits) (filepath : String) (source : List Char) (records : List Record) :
    Report :=
  ofLines limits filepath (Text.lines source) records

/-- Whether a complete report on records has anything to say. -/
def signal (records : List Record) : Signal :=
  if records.isEmpty then .success else .failure

/-- Whether a result is to be called a failure. -/
def verdict (result : Result) : Signal :=
  if result.failed then .failure else .success

end Report

end ScriptCheck
