import ScriptCheck.Limits

/-!
# Faults

Every way in which an operation of the library can refuse its input, as a cause with the data that
its message shows. `Fault.message` is the one place where the wording stands. A cause that shows a
value holds the text of it, since a value may have none.
-/

namespace ScriptCheck

/-- The two places of a record that have to hold a number. -/
inductive Coordinate where
  | line
  | column
  deriving DecidableEq, Repr

/-- The name of the field that holds a coordinate. -/
def Coordinate.fieldName : Coordinate → String
  | .line => "lineNumber"
  | .column => "column"

/-- Why an error object is no record. -/
inductive RecordProblem where
  | notInteger (coordinate : Coordinate) (shown : String)
  | notPositive (coordinate : Coordinate) (shown : String)
  | noMessage
  deriving DecidableEq, Repr

/-- Operations that do not take every type of value. -/
inductive Operator where
  | exceeds
  | minus
  | plus
  deriving DecidableEq, Repr

/-- Why an operation on values of unsuitable types is refused. Operands are given by type name. -/
inductive Mismatch where
  | operands (operator : Operator) (left right : String)
  | joinsListsOnly
  | joinsBytesOnly
  | indexesByInteger (found : String)
  | cutsAtInteger
  | repeatsByInteger (found : String)
  | formatsNumber (found : String)
  | opensPath (found : String)
  | looksUpKey (found : String)
  deriving DecidableEq, Repr

/-- A cause of failure. -/
inductive Fault where
  | badRecord (problem : RecordProblem)
  | unknownGrammar (name : String)
  | notAProgram (shown : String)
  | mismatch (cause : Mismatch)
  | indexOutOfRange
  | indexTooLarge
  | countTooLarge
  | notANumber
  | infiniteNumber
  | dropFromEmpty
  | dropOutOfRange
  | dropTooLarge
  | nullInPath
  /-- An integer has more digits than `most`, so it is not written. -/
  | tooManyDigits (most : Nat)
  /-- A value lies within too many others, so it is not written. -/
  | tooDeep
  deriving DecidableEq, Repr

/-- The wording of a record's problem. -/
def RecordProblem.message : RecordProblem → String
  | .notInteger coordinate shown =>
      "Error record has no integer " ++ coordinate.fieldName ++ " (got " ++ shown ++ ")"
  | .notPositive coordinate shown =>
      "Error record " ++ coordinate.fieldName ++ " should be positive (got " ++ shown ++ ")"
  | .noMessage => "Error record without message"

/-- The wording of a type mismatch. -/
def Mismatch.message : Mismatch → String
  | .operands .exceeds left right =>
      "'>' not supported between instances of '" ++ left ++ "' and '" ++ right ++ "'"
  | .operands .minus left right =>
      "unsupported operand type(s) for -: '" ++ left ++ "' and '" ++ right ++ "'"
  | .operands .plus left right =>
      "unsupported operand type(s) for +: '" ++ left ++ "' and '" ++ right ++ "'"
  | .joinsListsOnly => "can only concatenate list (not \"str\") to list"
  | .joinsBytesOnly => "can't concat str to bytes"
  | .indexesByInteger found => "list indices must be integers or slices, not " ++ found
  | .cutsAtInteger => "slice indices must be integers or None or have an __index__ method"
  | .repeatsByInteger found => "can't multiply sequence by non-int of type '" ++ found ++ "'"
  | .formatsNumber found => "%d format: a real number is required, not " ++ found
  | .opensPath found => "expected str, bytes or os.PathLike object, not " ++ found
  | .looksUpKey found => "unhashable type: '" ++ found ++ "'"

/-- The wording of a fault. -/
def Fault.message : Fault → String
  | .badRecord problem => problem.message
  | .unknownGrammar name => "Unknown parser backend " ++ name
  | .notAProgram shown => "Invalid AST " ++ shown
  | .mismatch cause => cause.message
  | .indexOutOfRange => "list index out of range"
  | .indexTooLarge | .countTooLarge => "cannot fit 'int' into an index-sized integer"
  | .notANumber => "cannot convert float NaN to integer"
  | .infiniteNumber => "cannot convert float infinity to integer"
  | .dropFromEmpty => "pop from empty list"
  | .dropOutOfRange => "pop index out of range"
  | .dropTooLarge => "Python int too large to convert to C ssize_t"
  | .nullInPath => "embedded null byte"
  | .tooManyDigits most => excessText most
  | .tooDeep => "maximum recursion depth exceeded while getting the repr of an object"

end ScriptCheck
