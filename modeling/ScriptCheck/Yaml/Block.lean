import ScriptCheck.Text.Base64
import ScriptCheck.Value.Text
import ScriptCheck.Yaml.Scalar

/-!
# Block layout

Mappings and lists are laid out in blocks: one field or item a line, two columns further in than
what holds them. A list under a key stands at the key's own column.
-/

namespace ScriptCheck.Yaml

open ScriptCheck.Number (Binary64)

/-- The text of a floating point number, with a point before the exponent in any case. -/
def floatText : Binary64 → List Char
  | .nan => ".nan".toList
  | .infinite negative => if negative then "-.inf".toList else ".inf".toList
  | number =>
      let text := number.toText
      if text.contains '.' then text
      else text.flatMap fun character => if character = 'e' then ".0e".toList else [character]

/-- The text of octets: lines of their own at a column, below a bar. -/
def binaryText (indent : Nat) (octets : List UInt8) : List Char :=
  match Text.Base64.lines octets with
  | [] => "''".toList
  | lines => '|' :: lines.flatMap fun line => newLine indent ++ line

/-- Whether a key has a line of its own: an empty one, a long one, or one with a line break. -/
def isLongKey (key : List Char) : Bool :=
  key.isEmpty || key.any isBreak || 128 ≤ key.length + 5

/-- Where a value stands: behind the colon of a key, or behind the dash of an item. -/
inductive Holder where
  | key
  | item
  deriving DecidableEq, Repr

mutual

/-- The text of a value behind a key or a dash. The keys or dashes stand at column `indent`, and the
line has come to `column`. -/
def layOut (holder : Holder) (indent column : Nat) : Value → List Char
  | .null => ' ' :: "null".toList
  | .bool truth => ' ' :: (if truth then "true".toList else "false".toList)
  | .int number => ' ' :: Text.signedDecimal number
  | .float number => ' ' :: floatText number
  | .text characters => ' ' :: write (some bestWidth) (indent + 2) (column + 1) characters.toList
  | .bytes octets => " !!binary ".toList ++ binaryText (indent + 2) octets
  | .list [] => " []".toList
  | .mapping [] => " \x7b\x7d".toList
  | .list items =>
      match holder with
      | .key => layOutItems indent false items
      | .item => layOutItems (indent + 2) true items
  | .mapping fields => layOutFields (indent + 2) (holder == .item) fields

/-- The items of a list with dashes at column `indent`; the first one may stand on the current line,
just behind the dash that holds the list. -/
def layOutItems (indent : Nat) (onLine : Bool) : List Value → List Char
  | [] => []
  | item :: items =>
      (if onLine then [' '] else newLine indent) ++
        '-' :: layOut .item indent (indent + 1) item ++ layOutItems indent false items

/-- The fields of a mapping with keys at column `indent`; the first one may stand on the current
line. -/
def layOutFields (indent : Nat) (onLine : Bool) : List (String × Value) → List Char
  | [] => []
  | (name, value) :: fields =>
      let key := name.toList
      let opening := if onLine then [' '] else newLine indent
      let field :=
        if isLongKey key then
          "? ".toList ++ write (some bestWidth) (indent + 2) (indent + 2) key ++ newLine indent ++
            ':' :: layOut .item indent (indent + 1) value
        else
          let written := write none (indent + 2) indent key
          written ++ ':' :: layOut .key indent (indent + written.length + 1) value
      opening ++ field ++ layOutFields indent false fields

end

/-- The lines of a document that is a mapping. -/
def documentLines (fields : List (String × Value)) : List Char :=
  match fields with
  | [] => "\x7b\x7d\n".toList
  | _ => (layOutFields 0 false fields).drop 1 ++ ['\n']

variable (limits : Limits)

mutual

/-- Whether all integers in a value can be written. -/
def canWrite : Value → Bool
  | .int number => limits.Writes number
  | .list items => canWriteItems items
  | .mapping fields => canWriteFields fields
  | _ => true

/-- Whether all integers in the items of a list can be written. -/
def canWriteItems : List Value → Bool
  | [] => true
  | item :: items => canWrite item && canWriteItems items

/-- Whether all integers in the fields of a mapping can be written. -/
def canWriteFields : List (String × Value) → Bool
  | [] => true
  | (_, value) :: fields => canWrite value && canWriteFields fields

end

/-- A mapping as a document of its own. All values are turned into texts before the first of them is
laid out, so a document is written whole or not at all. Lists and mappings nest as deeply as they
like. -/
def document (fields : List (String × Value)) : Except Fault (List Char) :=
  if canWriteFields limits fields then .ok (documentLines fields) else .error limits.digitFault

end ScriptCheck.Yaml
