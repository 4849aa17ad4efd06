import ScriptCheck.Number.Binary64

/-!
# Loosely typed values

Error objects come from outside, so their fields may hold anything that can be written in a request.
Their texts are sequences of characters, as all texts of the library are: texts with half of a
surrogate pair in them are left out.
`Value.equal` is equality across the numeric types, `Value.integer?` reads truth values as numbers,
and `Value.typeName` is the name that messages about unsuitable values show.
-/

namespace ScriptCheck

open ScriptCheck.Number (Binary64)

/-- A value of a request. Mappings keep the order of their keys, which are distinct. -/
inductive Value where
  | null
  | bool (truth : Bool)
  | int (number : Int)
  | float (number : Binary64)
  | text (characters : String)
  | bytes (octets : List UInt8)
  | list (items : List Value)
  | mapping (fields : List (String × Value))
  deriving Repr, Inhabited

namespace Value

/-- The name of a value's type, as messages show it. -/
def typeName : Value → String
  | .null => "NoneType"
  | .bool _ => "bool"
  | .int _ => "int"
  | .float _ => "float"
  | .text _ => "str"
  | .bytes _ => "bytes"
  | .list _ => "list"
  | .mapping _ => "dict"

/-- A truth value counts as zero or one. -/
def ofTruth (truth : Bool) : Int := if truth then 1 else 0

/-- The integer that a value is, truth values included. -/
def integer? : Value → Option Int
  | .bool truth => some (ofTruth truth)
  | .int number => some number
  | _ => none

/-- Whether a value is empty, zero, false or absent. -/
def isEmpty : Value → Bool
  | .null => true
  | .bool truth => !truth
  | .int number => number == 0
  | .float (.finite _ significand _) => significand == 0
  | .float _ => false
  | .text characters => characters == ""
  | .bytes octets => octets.isEmpty
  | .list items => items.isEmpty
  | .mapping fields => fields.isEmpty

/-- Whether a floating point number equals an integer. -/
def floatEqualsInt : Binary64 → Int → Bool
  | .finite negative significand exponent, number =>
      Binary64.compareInt negative significand exponent number == .eq
  | _, _ => false

/-- The value of a key, if the mapping has it. -/
def field? (fields : List (String × Value)) (key : String) : Option Value :=
  (fields.find? fun field => field.1 == key).map Prod.snd

mutual

/-- Equality of values: numbers of all types are equal when they have one value, lists item by item,
mappings without regard to order. -/
def equal : Value → Value → Bool
  | .null, .null => true
  | .bool left, .bool right => left == right
  | .bool left, .int right => ofTruth left == right
  | .bool left, .float right => floatEqualsInt right (ofTruth left)
  | .int left, .bool right => left == ofTruth right
  | .int left, .int right => left == right
  | .int left, .float right => floatEqualsInt right left
  | .float left, .bool right => floatEqualsInt left (ofTruth right)
  | .float left, .int right => floatEqualsInt left right
  | .float left, .float right => Binary64.numericEq left right
  | .text left, .text right => left == right
  | .bytes left, .bytes right => left == right
  | .list left, .list right => equalItems left right
  | .mapping left, .mapping right => left.length == right.length && equalFields left right
  | _, _ => false

/-- Lists are equal when they have equal items at all places. -/
def equalItems : List Value → List Value → Bool
  | [], [] => true
  | left :: lefts, right :: rights => equal left right && equalItems lefts rights
  | _, _ => false

/-- Every field on the left has an equal one of the same key on the right. -/
def equalFields : List (String × Value) → List (String × Value) → Bool
  | [], _ => true
  | (key, left) :: lefts, rights =>
      (match field? rights key with
        | some right => equal left right
        | none => false) && equalFields lefts rights

end

end Value

end ScriptCheck
