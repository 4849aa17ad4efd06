import ScriptCheck.Record.Basic
import ScriptCheck.Yaml.Block

/-!
# Dumps

The records of a check as a YAML document: the file first, then one group of line, column and
message for each record.
-/

namespace ScriptCheck.Dump

/-- A record as a mapping. -/
def describe (record : Record) : Value :=
  .mapping [("line", record.line), ("column", record.column), ("message", record.message)]

/-- The fields of the document. -/
def fields (filepath : String) (records : List Record) : List (String × Value) :=
  [("file", .text filepath), ("errors", .list (records.map describe))]

/-- The document. -/
def text (limits : Limits) (filepath : String) (records : List Record) :
    Except Fault (List Char) :=
  Yaml.document limits (fields filepath records)

end ScriptCheck.Dump
