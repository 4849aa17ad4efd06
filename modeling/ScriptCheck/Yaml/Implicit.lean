import ScriptCheck.Text.Digits

/-!
# Plain texts of other types

YAML 1.1 gives a type to a scalar without quotation marks by its form: `yes` is a truth value, `12`
an integer, `2001-01-01` a date. `isTyped` says which texts have such a form. A text with a line
break is never written without quotation marks, so forms are matched against one line.
-/

namespace ScriptCheck.Yaml.Implicit

open ScriptCheck.Text

/-- A digit or the underscore that may stand between digits. -/
def isGrouped (digit : Char → Bool) (character : Char) : Bool :=
  digit character || character == '_'

/-- A text without its sign. -/
def dropSign : List Char → List Char
  | '+' :: rest => rest
  | '-' :: rest => rest
  | text => text

/-- What follows `[0-9][0-9_]*`, if the text starts so. -/
def afterWhole? : List Char → Option (List Char)
  | [] => none
  | first :: rest =>
      if isDecimalDigit first then some (rest.dropWhile (isGrouped isDecimalDigit)) else none

/-- What follows one number of minutes or seconds behind its colon. -/
def afterSixtieth? : List Char → Option (List Char)
  | ':' :: tens :: ones :: rest =>
      if isDecimalDigit ones && isDecimalDigit tens then
        if tens.toNat ≤ 53 then some rest else none
      else if isDecimalDigit tens then some (ones :: rest)
      else none
  | [':', ones] => if isDecimalDigit ones then some [] else none
  | _ => none

/-- What follows the longest run of numbers behind colons; `steps` bounds their count. -/
def afterSixtieths : Nat → List Char → List Char
  | 0, text => text
  | steps + 1, text =>
      match afterSixtieth? text with
      | some rest => afterSixtieths steps rest
      | none => text

/-- Numbers behind colons, at least one, and what follows them. -/
def afterSexagesimal? (text : List Char) : Option (List Char) :=
  (afterSixtieth? text).map fun rest => afterSixtieths rest.length rest

/-- `0b`, `0x`, octal, decimal and sexagesimal integers. -/
def isInteger (text : List Char) : Bool :=
  match dropSign text with
  | '0' :: 'b' :: digits =>
      !digits.isEmpty && digits.all (isGrouped fun digit => digit == '0' || digit == '1')
  | '0' :: 'x' :: digits => !digits.isEmpty && digits.all (isGrouped isHexDigit)
  | '0' :: digits => digits.all (isGrouped isOctalDigit)
  | first :: rest =>
      isDecimalDigit first &&
        match rest.dropWhile (isGrouped isDecimalDigit) with
        | [] => true
        | behind => afterSexagesimal? behind == some []
  | [] => false

/-- An exponent with its sign, or nothing. -/
def isExponentOrEmpty : List Char → Bool
  | [] => true
  | mark :: sign :: digits =>
      (mark == 'e' || mark == 'E') && (sign == '+' || sign == '-') &&
        !digits.isEmpty && digits.all isDecimalDigit
  | _ => false

/-- Decimal and sexagesimal fractions, the infinities and what is no number. -/
def isFraction (text : List Char) : Bool :=
  let signed : Bool :=
    let unsigned := dropSign text
    if unsigned == ".inf".toList || unsigned == ".Inf".toList || unsigned == ".INF".toList then
      true
    else match afterWhole? unsigned with
      | some ('.' :: behind) => isExponentOrEmpty (behind.dropWhile (isGrouped isDecimalDigit))
      | some behind =>
          match afterSexagesimal? behind with
          | some ('.' :: digits) => digits.all (isGrouped isDecimalDigit)
          | _ => false
      | none => false
  let pointed : Bool :=
    match text with
    | '.' :: behind =>
        match afterWhole? behind with
        | some rest => isExponentOrEmpty rest
        | none => false
    | _ => false
  signed || pointed ||
    text == ".nan".toList || text == ".NaN".toList || text == ".NAN".toList

/-- Digits at the start of a text, at least `least` and at most `most`, and the rest. -/
def takeDigits? (least most : Nat) (text : List Char) : Option (List Char) :=
  let digits := (text.take most).takeWhile isDecimalDigit
  if digits.length < least then none else some (text.drop digits.length)

/-- The rest of a text behind a character. -/
def after? (expected : Char) : List Char → Option (List Char)
  | first :: rest => if first = expected then some rest else none
  | [] => none

/-- A time zone, or nothing, behind any spaces and tabs. -/
def isZoneOrEmpty (text : List Char) : Bool :=
  match text.dropWhile fun character => character == ' ' || character == '\t' with
  | [] => true
  | ['Z'] => true
  | sign :: behind =>
      (sign == '+' || sign == '-') &&
        match takeDigits? 1 2 behind with
        | some [] => true
        | some rest => ((after? ':' rest).bind (takeDigits? 2 2)) == some []
        | none => false

/-- A time of day behind the mark between date and time. -/
def isTime (text : List Char) : Bool :=
  match (takeDigits? 1 2 text).bind (after? ':') |>.bind (takeDigits? 2 2)
      |>.bind (after? ':') |>.bind (takeDigits? 2 2) with
  | some ('.' :: rest) => isZoneOrEmpty (rest.dropWhile isDecimalDigit)
  | some rest => isZoneOrEmpty rest
  | none => false

/-- A date, or a date with a time. -/
def isTimestamp (text : List Char) : Bool :=
  let date (least : Nat) : Option (List Char) :=
    (takeDigits? 4 4 text).bind (after? '-') |>.bind (takeDigits? least 2)
      |>.bind (after? '-') |>.bind (takeDigits? least 2)
  date 2 == some [] ||
    match date 1 with
    | some (mark :: rest) =>
        if mark = 'T' ∨ mark = 't' then isTime rest
        else if mark = ' ' ∨ mark = '\t' then
          isTime (rest.dropWhile fun character => character == ' ' || character == '\t')
        else false
    | _ => false

/-- The words for truth values, nothing, merging and values, and the bare marks of tags, anchors and
aliases. -/
def words : List String :=
  ["yes", "Yes", "YES", "no", "No", "NO", "true", "True", "TRUE", "false", "False", "FALSE",
    "on", "On", "ON", "off", "Off", "OFF", "~", "null", "Null", "NULL", "", "<<", "=",
    "!", "&", "*"]

/-- Whether a text without quotation marks would be read as something else than a text. -/
def isTyped (text : List Char) : Bool :=
  words.contains (String.ofList text) || isInteger text || isFraction text || isTimestamp text

end ScriptCheck.Yaml.Implicit
