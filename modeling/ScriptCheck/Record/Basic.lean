import ScriptCheck.Value.Text

/-!
# Diagnostic records

A record names a line, a column and a message. Nothing is checked when a record is made by hand, so
all three are loosely typed; records made by `Record.load` have positive integers and a text.
-/

namespace ScriptCheck

/-- A diagnostic: where something is wrong, and what. -/
structure Record where
  line : Value
  column : Value
  message : Value
  deriving Repr, Inhabited

/-- The whole number that a value is printed as: truth values count as numbers, and a fraction is
cut off. -/
def Value.wholeNumber : Value → Except Fault Int
  | .bool truth => .ok (ofTruth truth)
  | .int number => .ok number
  | .float .nan => .error .notANumber
  | .float (.infinite _) => .error .infiniteNumber
  | .float (.finite negative significand exponent) =>
      .ok (Number.Binary64.truncate negative significand exponent)
  | value => .error (.mismatch (.formatsNumber value.typeName))

/-- The decimal text of the whole number that a value is printed as. -/
def Value.decimal (limits : Limits) (value : Value) : Except Fault (List Char) := do
  limits.decimal (← value.wholeNumber)

namespace Record

/-- A record with a place and a text. -/
def ofPlace (line column : Int) (message : String) : Record :=
  ⟨.int line, .int column, .text message⟩

/-- Records are equal when their places and messages are. -/
def equal (left right : Record) : Bool :=
  left.line.equal right.line && left.column.equal right.column &&
    left.message.equal right.message

/-- The text that shows a record to a programmer, by a table of printable characters. The line is
converted before the column, and the column before the message. -/
def displayBy (limits : Limits) (printable : Char → Bool) (record : Record) :
    Except Fault (List Char) := do
  let line ← record.line.decimal limits
  let column ← record.column.decimal limits
  let message ← record.message.quotedBy limits printable
  return "ParseErrorRecord(".toList ++ line ++ ", ".toList ++ column ++ ", ".toList ++ message ++
    [')']

/-- The text that shows a record to a programmer. -/
def display (limits : Limits) (record : Record) : Except Fault (List Char) :=
  record.displayBy limits Text.isPrintable

end Record

end ScriptCheck
