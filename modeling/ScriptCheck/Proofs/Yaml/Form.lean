import Mathlib.Computability.RegularExpressions
import ScriptCheck.Limits

/-!
# Forms of plain scalars

YAML 1.1 types a scalar without quotation marks by regular expressions, which stand here as they
stand there. The first one that matches decides; what none matches is a text.
-/

namespace ScriptCheck.Yaml

open RegularExpression

namespace Form

/-- One character of several. -/
def oneOf (characters : List Char) : RegularExpression Char :=
  (characters.map char).foldr (· + ·) 0

/-- A word. -/
def word (text : String) : RegularExpression Char := (text.toList.map char).foldr (· * ·) 1

/-- One word of several. -/
def anyWord (texts : List String) : RegularExpression Char := (texts.map word).foldr (· + ·) 0

/-- A form or nothing. -/
def maybe (form : RegularExpression Char) : RegularExpression Char := 1 + form

/-- A form once or several times. -/
def repeated (form : RegularExpression Char) : RegularExpression Char := form * star form

/-- The characters of a text. -/
def of (text : String) : RegularExpression Char := oneOf text.toList

/-- A decimal digit. -/
def digit : RegularExpression Char := of "0123456789"

/-- Decimal digits in groups, which may be empty. -/
def digits : RegularExpression Char := star (of "0123456789_")

/-- A sign or nothing. -/
def sign : RegularExpression Char := maybe (of "-+")

/-- An exponent with its sign, or nothing. -/
def exponent : RegularExpression Char := maybe (of "eE" * of "-+" * repeated digit)

/-- Minutes and seconds behind colons. -/
def sixtieths : RegularExpression Char :=
  repeated (char ':' * maybe (of "012345") * digit)

/-- One or two digits. -/
def upToTwo : RegularExpression Char := digit * maybe digit

/-- Spaces and tabs, or nothing. -/
def blanks : RegularExpression Char := star (of " \t")

/-- A time zone behind blanks, or nothing. -/
def zone : RegularExpression Char :=
  maybe (blanks * (char 'Z' + of "-+" * upToTwo * maybe (char ':' * digit * digit)))

variable {text : List Char}

theorem mem_oneOf {characters : List Char} :
    text ∈ (oneOf characters).matches' ↔ ∃ character ∈ characters, text = [character] := by
  induction characters with
  | nil => simp [oneOf]
  | cons character characters inductionHypothesis =>
      simp only [oneOf, List.map_cons, List.foldr_cons, matches'_add, Language.mem_add,
        matches'_char] at inductionHypothesis ⊢
      rw [inductionHypothesis, List.exists_mem_cons_iff]
      rfl

theorem mem_of {characters : String} :
    text ∈ (of characters).matches' ↔ ∃ character ∈ characters.toList, text = [character] :=
  mem_oneOf

theorem mem_word {characters : String} :
    text ∈ (word characters).matches' ↔ text = characters.toList := by
  rw [word]
  induction characters.toList generalizing text with
  | nil => rfl
  | cons character characters inductionHypothesis =>
      rw [List.map_cons, List.foldr_cons, matches'_mul, Language.mem_mul, matches'_char]
      constructor
      · rintro ⟨_, rfl, rest, matched, rfl⟩
        rw [inductionHypothesis.mp matched, List.singleton_append]
      · rintro rfl
        exact ⟨_, rfl, _, inductionHypothesis.mpr rfl, rfl⟩

theorem mem_anyWord {words : List String} :
    text ∈ (anyWord words).matches' ↔ ∃ characters ∈ words, text = characters.toList := by
  induction words with
  | nil => simp [anyWord]
  | cons characters words inductionHypothesis =>
      simp only [anyWord, List.map_cons, List.foldr_cons, matches'_add, Language.mem_add,
        mem_word] at inductionHypothesis ⊢
      rw [inductionHypothesis, List.exists_mem_cons_iff]

theorem mem_maybe {form : RegularExpression Char} :
    text ∈ (maybe form).matches' ↔ text = [] ∨ text ∈ form.matches' := by
  rw [maybe, matches'_add, Language.mem_add, matches'_epsilon, Language.mem_one]

theorem mem_star_of {characters : String} :
    text ∈ (star (of characters)).matches' ↔
      ∀ character ∈ text, character ∈ characters.toList := by
  rw [matches'_star, Language.mem_kstar]
  constructor
  · rintro ⟨pieces, rfl, each⟩ character mem
    obtain ⟨piece, isPiece, mem⟩ := List.mem_flatten.mp mem
    obtain ⟨found, isFound, rfl⟩ := mem_of.mp (each piece isPiece)
    rwa [List.mem_singleton.mp mem]
  · intro inside
    refine ⟨text.map fun character => [character], ?_, ?_⟩
    · exact (List.flatMap_singleton' text).symm
    · intro piece isPiece
      obtain ⟨character, mem, rfl⟩ := List.mem_map.mp isPiece
      exact mem_of.mpr ⟨character, inside character mem, rfl⟩

theorem mem_repeated_of {characters : String}
    (matched : text ∈ (repeated (of characters)).matches') :
    text ≠ [] ∧ ∀ character ∈ text, character ∈ characters.toList := by
  obtain ⟨_, first, rest, others, rfl⟩ := Language.mem_mul.mp matched
  obtain ⟨character, isFirst, rfl⟩ := mem_of.mp first
  refine ⟨List.cons_ne_nil _ _, ?_⟩
  intro other mem
  rcases List.mem_cons.mp mem with rfl | mem
  · exact isFirst
  · exact mem_star_of.mp others other mem

theorem mem_digit (matched : text ∈ digit.matches') :
    ∃ character, Text.isDecimalDigit character = true ∧ text = [character] := by
  obtain ⟨character, isDigit, rfl⟩ := mem_of.mp matched
  refine ⟨character, ?_, rfl⟩
  revert isDigit character
  decide

end Form

open Form

/-- The types that a plain scalar may have besides that of a text, in the order in which their forms
are tried. -/
inductive Tag where
  | bool
  | float
  | int
  | merge
  | null
  | timestamp
  | value
  | yaml
  deriving DecidableEq, Repr

namespace Tag

/-- All types. -/
def all : List Tag := [bool, float, int, merge, null, timestamp, value, yaml]

/-- The form of a type. -/
def form : Tag → RegularExpression Char
  | bool => anyWord ["yes", "Yes", "YES", "no", "No", "NO", "true", "True", "TRUE", "false",
      "False", "FALSE", "on", "On", "ON", "off", "Off", "OFF"]
  | float =>
      sign * digit * digits * char '.' * digits * exponent +
      char '.' * digit * digits * exponent +
      sign * digit * digits * sixtieths * char '.' * digits +
      sign * anyWord [".inf", ".Inf", ".INF"] +
      anyWord [".nan", ".NaN", ".NAN"]
  | int =>
      sign * word "0b" * repeated (of "01_") +
      sign * char '0' * repeated (of "01234567_") +
      sign * (char '0' + of "123456789" * digits) +
      sign * word "0x" * repeated (of "0123456789abcdefABCDEF_") +
      sign * of "123456789" * digits * sixtieths
  | merge => word "<<"
  | null => anyWord ["~", "null", "Null", "NULL", ""]
  | timestamp =>
      digit * digit * digit * digit * char '-' * digit * digit * char '-' * digit * digit +
      digit * digit * digit * digit * char '-' * upToTwo * char '-' * upToTwo *
        (of "Tt" + repeated (of " \t")) * upToTwo * char ':' * digit * digit * char ':' *
        digit * digit * maybe (char '.' * star digit) * zone
  | value => word "="
  | yaml => anyWord ["!", "&", "*"]

/-- The type of a plain scalar, if it is no text. -/
def ofPlain? (text : List Char) : Option Tag := all.find? fun tag => tag.form.rmatch text

end Tag

/-- A number in decimal digits, if they are not too many. -/
def decimalOf? (limits : Limits) (digits : List Char) : Option Nat :=
  if limits.Allows digits.length then some (Text.readDigits 10 digits) else none

/-- An integer without its sign: binary, hexadecimal, octal, sexagesimal or decimal. Only the digits
of the latter two can be too many. -/
def unsignedInt? (limits : Limits) (text : List Char) : Option Nat :=
  match text with
  | '0' :: 'b' :: digits => some (Text.readDigits 2 digits)
  | '0' :: 'x' :: digits => some (Text.readDigits 16 digits)
  | '0' :: digits => some (Text.readDigits 8 digits)
  | _ =>
      if text.contains ':' then
        (text.splitOn ':').foldlM (fun total part =>
          (decimalOf? limits part).map fun number => 60 * total + number) 0
      else decimalOf? limits text

/-- The integer that a text of this type denotes. Underscores are for the eye only. -/
def intOf? (limits : Limits) (text : List Char) : Option Int :=
  match text.filter (· != '_') with
  | '-' :: unsigned => (unsignedInt? limits unsigned).map fun number : Nat => -(number : Int)
  | '+' :: unsigned => (unsignedInt? limits unsigned).map Int.ofNat
  | unsigned => (unsignedInt? limits unsigned).map Int.ofNat

end ScriptCheck.Yaml
