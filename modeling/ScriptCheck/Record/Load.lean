import ScriptCheck.Record.Basic

/-!
# Loading records from error objects

Whatever reports an error may do so with a mapping, an object with attributes, a plain value or a
raised exception. `Record.load` makes a record of it, or says which part is missing: the line first,
then the column, then the message. What it says shows the value that it found, so it fails in
another way where that value cannot be written.
-/

namespace ScriptCheck

/-- An exception that was raised: the name of its class, its text, and attributes set on it. Those
whose text cannot be made are left out. -/
structure Raised where
  className : String
  text : String
  attributes : List (String × Value) := []
  deriving Repr, Inhabited

namespace Raised

/-- The exception of a class built with one argument. The text of a missing key is the key in
quotation marks; the syntax error of the modern grammar keeps its text in an attribute as well. -/
def ofArgument (className argument : String) (attributes : List (String × Value)) : Raised where
  className := className
  text := if className = "KeyError" then Text.Quoted.quote argument else argument
  attributes :=
    if className = "Error" then attributes ++ [("message", .text argument)] else attributes

/-- The class and the text of an exception on one line. -/
def headline (raised : Raised) : String := raised.className ++ ": " ++ raised.text

end Raised

/-- Anything that may carry the fields of a diagnostic. -/
inductive ErrorObject where
  | mapping (fields : List (String × Value))
  | object (attributes : List (String × Value))
  | plain (value : Value)
  | exception (raised : Raised)
  deriving Repr, Inhabited

namespace ErrorObject

/-- The value of a field. A field that is absent reads as null, and so does every field of a plain
value that is no mapping. -/
def field (object : ErrorObject) (key : String) : Value :=
  let fields := match object with
    | .mapping fields | .object fields | .plain (.mapping fields) => fields
    | .plain _ => []
    | .exception raised => raised.attributes
  (Value.field? fields key).getD .null

end ErrorObject

namespace Record

variable (limits : Limits)

/-- A coordinate is an integer that is no truth value, and at least one. -/
def loadCoordinate (coordinate : Coordinate) (value : Value) : Except Fault Int :=
  match value with
  | .int number =>
      if number < 1 then do
        let shown ← value.shownText limits
        throw (.badRecord (.notPositive coordinate shown))
      else .ok number
  | _ => do
      let shown ← value.quotedText limits
      throw (.badRecord (.notInteger coordinate shown))

/-- The message of an error object: the headline of an exception, else the field `message`, else the
field `description`. -/
def messageOf : ErrorObject → Except Fault Value
  | .exception raised => .ok (.text raised.headline)
  | object =>
      match object.field "message" with
      | .null =>
          match object.field "description" with
          | .null => .error (.badRecord .noMessage)
          | description => .ok description
      | message => .ok message

/-- The record of an error object. -/
def load (object : ErrorObject) : Except Fault Record := do
  let line ← loadCoordinate limits .line (object.field Coordinate.line.fieldName)
  let column ← loadCoordinate limits .column (object.field Coordinate.column.fieldName)
  let message ← messageOf object
  return ofPlace line column (← message.shownText limits)

/-- The records of error objects, in order; the first that is no record decides. -/
def loadAll : List ErrorObject → Except Fault (List Record)
  | [] => .ok []
  | object :: objects => do
      let record ← load limits object
      let records ← loadAll objects
      return record :: records

end Record

/-- A syntax tree has the type `Program`; anything else is refused. -/
def requireProgram (limits : Limits) (type : Value) : Except Fault Unit :=
  if type.equal (.text "Program") then .ok ()
  else do
    let shown ← type.shownText limits
    throw (.notAProgram shown)

end ScriptCheck
