import ScriptCheck.Yaml.Implicit

/-!
# Scalars

A text is written plain where that is allowed and reads back as a text, else in single quotation
marks, else in double ones. Lines are folded behind column eighty: a space becomes a line break with
the indentation behind it. Everything outside printable ASCII is escaped, which only double
quotation marks can do.
-/

namespace ScriptCheck.Yaml

open ScriptCheck.Text

/-- The three ways to write a text. -/
inductive Style where
  | plain
  | single
  | double
  deriving DecidableEq, Repr

/-- The column behind which lines are folded. -/
def bestWidth : Nat := 80

/-- Whether a line that has come to `column` is folded; lines are not folded without a width. -/
def isOverfull (width : Option Nat) (column : Nat) : Bool :=
  match width with
  | some limit => limit < column
  | none => false

/-- A line break and the indentation of the next line. -/
def newLine (indent : Nat) : List Char := '\n' :: List.replicate indent ' '

/-- The characters that end a line. -/
def isBreak (character : Char) : Bool :=
  let code := character.toNat
  code == 0x0A || code == 0x85 || code == 0x2028 || code == 0x2029

/-- The characters around which `:`, `#`, `-` and `?` are signs. -/
def isBlank (character : Char) : Bool :=
  isBreak character || character == ' ' || character == '\t' || character == '\r' ||
    character.toNat == 0

/-- Printable ASCII and the line feed; all else needs an escape. -/
def isOrdinary (character : Char) : Bool :=
  character == '\n' || (0x20 ≤ character.toNat && character.toNat ≤ 0x7E)

/-- The signs with which no plain text starts. -/
def isOpeningSign (character : Char) : Bool :=
  "#,[]\x7b\x7d&*!|>'\"%@\x60".toList.contains character

/-- Whether the end of the text or a blank follows. -/
def blankFollows : List Char → Bool
  | [] => true
  | next :: _ => isBlank next

/-- Whether a sign stands inside a plain text: a colon before a blank, or a number sign behind
one. -/
def hasInnerSign : (behindBlank : Bool) → List Char → Bool
  | _, [] => false
  | behindBlank, character :: rest =>
      (character == ':' && blankFollows rest) || (character == '#' && behindBlank) ||
        hasInnerSign (isBlank character) rest

/-- Whether two neighbours satisfy a relation. -/
def hasNeighbours (related : Char → Char → Bool) : List Char → Bool
  | first :: second :: rest => related first second || hasNeighbours related (second :: rest)
  | _ => false

/-- Whether a text starts with the mark of a document's start or end. -/
def startsDocument (text : List Char) : Bool :=
  text.take 3 == ['-', '-', '-'] || text.take 3 == ['.', '.', '.']

/-- Whether the first character of a plain text would be taken for a sign. -/
def startsWithSign : List Char → Bool
  | [] => false
  | first :: rest =>
      isOpeningSign first ||
        ((first == '?' || first == ':' || first == '-') && blankFollows rest)

/-- Whether a text starts or ends with a space. -/
def hasOuterSpace (text : List Char) : Bool :=
  text.head? == some ' ' || text.getLast? == some ' '

/-- Whether a text may be written without quotation marks. -/
def allowsPlain (text : List Char) : Bool :=
  !startsDocument text && !startsWithSign text && !hasInnerSign true text &&
    !hasOuterSpace text && !text.any isBreak && text.all isOrdinary

/-- Whether a text may be written in single quotation marks. -/
def allowsSingle (text : List Char) : Bool :=
  text.all isOrdinary &&
    !hasNeighbours (fun first second =>
      (isBreak first && second == ' ') || (first == ' ' && isBreak second)) text

/-- The style of a text. -/
def Style.ofText (text : List Char) : Style :=
  if allowsPlain text && !Implicit.isTyped text then .plain
  else if allowsSingle text then .single
  else .double

/-- A plain text from `column` on. A single space is where a line is folded. -/
def plainFrom (width : Option Nat) (indent : Nat) :
    (column : Nat) → (behindSpace : Bool) → List Char → List Char
  | _, _, [] => []
  | column, behindSpace, character :: rest =>
      if character = ' ' ∧ !behindSpace ∧ rest.head? ≠ some ' ' ∧ isOverfull width column then
        newLine indent ++ plainFrom width indent indent true rest
      else character :: plainFrom width indent (column + 1) (character == ' ') rest

/-- A text in single quotation marks from `column` on, the closing mark included. A quotation
mark is doubled, a run of line feeds has one more, and a single space inside is where a line is
folded. -/
def singleFrom (width : Option Nat) (indent : Nat) :
    (column : Nat) → (previous : Option Char) → List Char → List Char
  | _, _, [] => ['\'']
  | column, previous, character :: rest =>
      if character = '\'' then
        '\'' :: '\'' :: singleFrom width indent (column + 2) (some character) rest
      else if character = '\n' then
        let opened := if previous = some '\n' then ['\n'] else ['\n', '\n']
        let closed := if rest.head? = some '\n' then [] else List.replicate indent ' '
        opened ++ closed ++ singleFrom width indent indent (some character) rest
      else if character = ' ' ∧ previous ≠ none ∧ previous ≠ some ' ' ∧ !rest.isEmpty ∧
          rest.head? ≠ some ' ' ∧ isOverfull width column then
        newLine indent ++ singleFrom width indent indent (some character) rest
      else character :: singleFrom width indent (column + 1) (some character) rest

/-- The letter of a short escape. -/
def escapeLetter? (character : Char) : Option Char :=
  let code := character.toNat
  if code = 0 then some '0'
  else if code = 7 then some 'a'
  else if code = 8 then some 'b'
  else if code = 9 then some 't'
  else if code = 10 then some 'n'
  else if code = 11 then some 'v'
  else if code = 12 then some 'f'
  else if code = 13 then some 'r'
  else if code = 27 then some 'e'
  else if code = 34 then some '"'
  else if code = 92 then some '\\'
  else if code = 0x85 then some 'N'
  else if code = 0xA0 then some '_'
  else if code = 0x2028 then some 'L'
  else if code = 0x2029 then some 'P'
  else none

/-- The escape of a character. -/
def escape (character : Char) : List Char :=
  match escapeLetter? character with
  | some letter => ['\\', letter]
  | none =>
      let code := character.toNat
      if code ≤ 0xFF then '\\' :: 'x' :: hexDigits .upper 2 code
      else if code ≤ 0xFFFF then '\\' :: 'u' :: hexDigits .upper 4 code
      else '\\' :: 'U' :: hexDigits .upper 8 code

/-- Whether a character is escaped between double quotation marks. -/
def needsEscape (character : Char) : Bool :=
  character == '"' || character == '\\' ||
    !(0x20 ≤ character.toNat && character.toNat ≤ 0x7E)

/-- A text in double quotation marks from `column` on, the closing mark included. A line is folded
before a space, behind an escape, and never at the first or the last character: a backslash ends the
line, and another one keeps the space that starts the next. `fresh` says that an escape or a fold
has just been written. -/
def doubleFrom (width : Option Nat) (indent : Nat) :
    (column : Nat) → (atStart fresh : Bool) → List Char → List Char
  | _, _, _, [] => ['"']
  | column, atStart, fresh, character :: rest =>
      let inside := !atStart && !rest.isEmpty
      if needsEscape character then
        let escaped := escape character
        let next := column + escaped.length
        if inside ∧ isOverfull width (next - 1) then
          if rest.head? = some ' ' then
            escaped ++ '\\' :: newLine indent ++
              '\\' :: doubleFrom width indent (indent + 1) false true rest
          else escaped ++ '\\' :: newLine indent ++ doubleFrom width indent indent false true rest
        else escaped ++ doubleFrom width indent next false true rest
      else if inside ∧ (character = ' ' ∨ fresh) ∧ isOverfull width column then
        if character = ' ' then
          '\\' :: newLine indent ++
            '\\' :: ' ' :: doubleFrom width indent (indent + 2) false false rest
        else '\\' :: newLine indent ++
            character :: doubleFrom width indent (indent + 1) false false rest
      else character :: doubleFrom width indent (column + 1) false false rest

/-- A text written at `column` in a style. -/
def writeIn (style : Style) (width : Option Nat) (indent column : Nat) (text : List Char) :
    List Char :=
  match style with
  | .plain => plainFrom width indent column false text
  | .single => '\'' :: singleFrom width indent (column + 1) none text
  | .double => '"' :: doubleFrom width indent (column + 1) true true text

/-- A text written at `column`, in the style that fits it. -/
def write (width : Option Nat) (indent column : Nat) (text : List Char) : List Char :=
  writeIn (Style.ofText text) width indent column text

end ScriptCheck.Yaml
