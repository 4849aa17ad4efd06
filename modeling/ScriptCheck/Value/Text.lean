import ScriptCheck.Fault
import ScriptCheck.Value.Basic
import ScriptCheck.Number.Shortest
import ScriptCheck.Text.Printable
import ScriptCheck.Text.Quoted

/-!
# Texts of values

`Value.quoted` writes a value so that its type can be told, texts in quotation marks; `Value.shown`
differs on a text only, which stands for itself. Neither writes a value that holds an integer of too
many digits or lies too deep: `Value.textFault?` says why. `Value.quotedBy` takes the table that
tells which characters of a text are printable.
-/

namespace ScriptCheck

/-- The fault that an integer of too many digits is. -/
def Limits.digitFault (limits : Limits) : Fault := .tooManyDigits limits.mostDigits

/-- The decimal text of an integer, if it is short enough. -/
def Limits.decimal (limits : Limits) (number : Int) : Except Fault (List Char) :=
  if limits.Writes number then .ok (Text.signedDecimal number) else .error limits.digitFault

namespace Value

open ScriptCheck.Text

section

variable (limits : Limits)

mutual

/-- Why a value within `depth` others has no text, if it has none: the first thing in it that cannot
be written. -/
def textFault? (depth : Nat) (value : Value) : Option Fault :=
  if limits.isTooDeep depth then some .tooDeep
  else match value with
    | .int number => if limits.Writes number then none else some limits.digitFault
    | .list items => itemsFault? (depth + 1) items
    | .mapping fields => fieldsFault? (depth + 1) fields
    | _ => none

/-- Why the items of a list have no texts. -/
def itemsFault? (depth : Nat) : List Value → Option Fault
  | [] => none
  | item :: items => (textFault? depth item).or (itemsFault? depth items)

/-- Why the fields of a mapping have no texts. -/
def fieldsFault? (depth : Nat) : List (String × Value) → Option Fault
  | [] => none
  | (_, value) :: fields => (textFault? depth value).or (fieldsFault? depth fields)

end

end

/-- Texts with a comma and a space between them. -/
def commaSeparated : List (List Char) → List Char
  | [] => []
  | [last] => last
  | first :: rest => first ++ ',' :: ' ' :: commaSeparated rest

section

variable (printable : Char → Bool)

mutual

/-- How a value is spelled that can be written, with all texts in it quoted. -/
def spelledBy : Value → List Char
  | .null => "None".toList
  | .bool truth => if truth then "True".toList else "False".toList
  | .int number => signedDecimal number
  | .float number => number.toText
  | .text characters => Quoted.write printable characters.toList
  | .bytes octets => Quoted.writeBytes octets
  | .list items => '[' :: commaSeparated (spelledItemsBy items) ++ [']']
  | .mapping fields => '\x7b' :: commaSeparated (spelledFieldsBy fields) ++ ['\x7d']

/-- The texts of the items of a list. -/
def spelledItemsBy : List Value → List (List Char)
  | [] => []
  | item :: items => spelledBy item :: spelledItemsBy items

/-- The texts of the fields of a mapping. -/
def spelledFieldsBy : List (String × Value) → List (List Char)
  | [] => []
  | (key, value) :: fields =>
      (Quoted.write printable key.toList ++ ':' :: ' ' :: spelledBy value) :: spelledFieldsBy fields

end

end

variable (limits : Limits)

/-- The text of a value with all texts in it quoted, by a table of printable characters. -/
def quotedBy (printable : Char → Bool) (value : Value) : Except Fault (List Char) :=
  match value.textFault? limits 0 with
  | some fault => .error fault
  | none => .ok (value.spelledBy printable)

/-- The text of a value with all texts in it quoted. -/
def quoted (value : Value) : Except Fault (List Char) := value.quotedBy limits isPrintable

/-- The text of a value, where a text stands for itself. -/
def shown : Value → Except Fault (List Char)
  | .text characters => .ok characters.toList
  | value => value.quoted limits

/-- The quoted text as a string. -/
def quotedText (value : Value) : Except Fault String := (value.quoted limits).map String.ofList

/-- The shown text as a string. -/
def shownText (value : Value) : Except Fault String := (value.shown limits).map String.ofList

end Value

end ScriptCheck
