import ScriptCheck.Proofs.Yaml.Form

/-!
# Reading YAML

A reader for block mappings, block sequences, empty flow sequences, and scalars of the three styles.
Where it answers, it does so by the rules of YAML 1.1; all else is refused: comments, tags, anchors,
aliases, directives, the marks of documents, scalars below bars, flow collections that are not
empty, and line ends other than line feeds. It knows nothing of how documents are written here.

A text is composed of nodes first. Then the nodes are given their values, and integers of too many
digits are refused.
-/

namespace ScriptCheck.Yaml

/-- What a text is composed of. Scalars have the types of their forms, where texts have none. -/
inductive Node where
  | scalar (tag : Option Tag) (characters : List Char)
  | list (items : List Node)
  | mapping (fields : List (Node × Node))
  deriving Repr

/-- What a document holds. Scalars of types other than texts and integers are left as they stand. -/
inductive Document where
  | text (characters : String)
  | int (number : Int)
  | other (tag : Tag) (characters : String)
  | list (items : List Document)
  | mapping (fields : List (Document × Document))
  deriving Repr

namespace Node

/-- A scalar between quotation marks is a text. -/
def ofQuoted (characters : List Char) : Node := .scalar none characters

/-- A scalar without quotation marks has the type of its form. -/
def ofPlain (characters : List Char) : Node := .scalar (Tag.ofPlain? characters) characters

variable (limits : Limits)

mutual

/-- What a node stands for, unless there is an integer of too many digits. -/
def document? : Node → Option Document
  | .scalar none characters => some (.text (String.ofList characters))
  | .scalar (some .int) characters => (intOf? limits characters).map .int
  | .scalar (some tag) characters => some (.other tag (String.ofList characters))
  | .list items => (itemDocuments? items).map .list
  | .mapping fields => (fieldDocuments? fields).map .mapping

/-- What the items of a sequence stand for. -/
def itemDocuments? : List Node → Option (List Document)
  | [] => some []
  | item :: items => do return (← document? item) :: (← itemDocuments? items)

/-- What the fields of a mapping stand for. -/
def fieldDocuments? : List (Node × Node) → Option (List (Document × Document))
  | [] => some []
  | (key, value) :: fields => do
      return (← document? key, ← document? value) :: (← fieldDocuments? fields)

end

end Node

namespace Reader

/-- The characters that a document may hold: printable ones, tabs and line feeds. -/
def isAllowed (character : Char) : Bool :=
  let code := character.toNat
  code == 0x09 || code == 0x0A || (0x20 ≤ code && code ≤ 0x7E) ||
    (0xA0 ≤ code && code ≤ 0xFFFD && code != 0x2028 && code != 0x2029 && code != 0xFEFF) ||
    0x10000 ≤ code

/-- Whether a blank or the end of the text is next. -/
def blankNext : List Char → Bool
  | [] => true
  | next :: _ => next == ' ' || next == '\t' || next == '\n'

/-- Whether a line starts with the mark of the start or the end of a document. -/
def startsWithMark (text : List Char) : Bool :=
  (text.take 3 == "---".toList || text.take 3 == "...".toList) && blankNext (text.drop 3)

/-- What was read of a scalar since its last character that is no blank. -/
inductive Gap where
  /-- Blanks of one line. -/
  | line (blanks : List Char)
  /-- A line end and a number of empty lines. A line end behind a backslash is no space. -/
  | folded (escaped : Bool) (emptyLines : Nat)
  deriving DecidableEq, Repr

namespace Gap

/-- What a gap stands for: a line end for a space, empty lines for line feeds. -/
def content : Gap → List Char
  | line blanks => blanks
  | folded true 0 => []
  | folded false 0 => [' ']
  | folded _ emptyLines => List.replicate emptyLines '\n'

/-- The gap with one more blank. Blanks at the start of a line are its indentation. -/
def blank (character : Char) : Gap → Gap
  | line blanks => line (blanks ++ [character])
  | folded escaped emptyLines => folded escaped emptyLines

/-- The gap with one more line end. Blanks in front of a line end do not count. -/
def lineEnd : Gap → Gap
  | line _ => folded false 0
  | folded escaped emptyLines => folded escaped (emptyLines + 1)

/-- Whether a gap ends a line. -/
def isFolded : Gap → Bool
  | line _ => false
  | folded _ _ => true

end Gap

/-- What was read and the rest of the text, with more in front. -/
def behind (characters : List Char) (read : Option (List Char × List Char)) :
    Option (List Char × List Char) :=
  read.map fun (others, rest) => (characters ++ others, rest)

/-- Read a text between single quotation marks up to the closing one. A mark inside is doubled. -/
def single : Gap → List Char → Option (List Char × List Char)
  | _, [] => none
  | gap, character :: rest =>
      if character = '\'' then
        match rest with
        | '\'' :: rest => behind (gap.content ++ ['\'']) (single (.line []) rest)
        | rest => some (gap.content, rest)
      else if character = ' ' ∨ character = '\t' then single (gap.blank character) rest
      else if character = '\n' then
        if startsWithMark rest then none else single gap.lineEnd rest
      else behind (gap.content ++ [character]) (single (.line []) rest)

/-- The characters that single letters stand for behind a backslash. -/
def replacements : List (Char × Char) :=
  [('0', '\x00'), ('a', '\x07'), ('b', '\x08'), ('t', '\t'), ('\t', '\t'), ('n', '\n'),
    ('v', '\x0B'), ('f', '\x0C'), ('r', '\r'), ('e', '\x1B'), (' ', ' '), ('"', '"'),
    ('\\', '\\'), ('/', '/'), ('N', '\u0085'), ('_', '\u00A0'), ('L', '\u2028'), ('P', '\u2029')]

/-- The character of a code in hexadecimal digits. -/
def characterOf? (digits : List Char) : Option Char :=
  let code := Text.readDigits 16 digits
  if digits.all Text.isHexDigit ∧ code.isValidChar then some (Char.ofNat code) else none

/-- Read a text between double quotation marks up to the closing one. -/
def double : Gap → List Char → Option (List Char × List Char)
  | _, [] => none
  | gap, character :: rest =>
      if character = '"' then some (gap.content, rest)
      else if character = '\\' then
        match rest with
        | [] => none
        | letter :: rest =>
            if letter = '\n' then
              if startsWithMark rest then none
              else behind gap.content (double (.folded true 0) rest)
            else match replacements.lookup letter with
              | some character => behind (gap.content ++ [character]) (double (.line []) rest)
              | none =>
                  match letter, rest with
                  | 'x', a :: b :: rest => do
                      let character ← characterOf? [a, b]
                      behind (gap.content ++ [character]) (double (.line []) rest)
                  | 'u', a :: b :: c :: d :: rest => do
                      let character ← characterOf? [a, b, c, d]
                      behind (gap.content ++ [character]) (double (.line []) rest)
                  | 'U', a :: b :: c :: d :: e :: f :: g :: h :: rest => do
                      let character ← characterOf? [a, b, c, d, e, f, g, h]
                      behind (gap.content ++ [character]) (double (.line []) rest)
                  | _, _ => none
      else if character = ' ' ∨ character = '\t' then double (gap.blank character) rest
      else if character = '\n' then
        if startsWithMark rest then none else double gap.lineEnd rest
      else behind (gap.content ++ [character]) (double (.line []) rest)

/-- Whether a scalar without quotation marks can start here. -/
def startsPlain : List Char → Bool
  | [] => false
  | first :: rest =>
      if first = '-' ∨ first = '?' ∨ first = ':' then !blankNext rest
      else !blankNext [first] && !",[]\x7b\x7d#&*!|>'\"%@\x60".toList.contains first

/-- Read a scalar without quotation marks, whose lines behind the first one stand at column `least`
at least. The scalar ends at a tab, at a colon in front of a blank, at a number sign behind a blank,
and in front of a line that is not its own; what is left starts where the last gap does, `back`. -/
def plain (least : Nat) : (gap : Gap) → (column : Nat) → (back : List Char) → List Char →
    List Char × List Char
  | _, _, back, [] => ([], back)
  | gap, column, back, character :: rest =>
      if character = ' ' then plain least (gap.blank ' ') (column + 1) back rest
      else if character = '\n' then
        if startsWithMark rest then ([], back) else plain least gap.lineEnd 0 back rest
      else if character = '\t' ∨ (character = ':' ∧ blankNext rest) ∨
          (character = '#' ∧ gap ≠ .line []) ∨ (gap.isFolded ∧ column < least) then
        ([], back)
      else
        let (others, rest) := plain least (.line []) 0 rest rest
        (gap.content ++ character :: others, rest)

/-- Read a scalar. -/
def scalar (least : Nat) (text : List Char) : Option (Node × List Char) :=
  match text with
  | '\'' :: rest => (single (.line []) rest).map fun (found, rest) => (.ofQuoted found, rest)
  | '"' :: rest => (double (.line []) rest).map fun (found, rest) => (.ofQuoted found, rest)
  | _ =>
      if startsPlain text && !startsWithMark text then
        let (found, rest) := plain least (.line []) 0 text text
        some (.ofPlain found, rest)
      else none

/-- Read an empty flow sequence or a scalar. -/
def leaf (least : Nat) (text : List Char) : Option (Node × List Char) :=
  match text with
  | '[' :: rest =>
      match rest.dropWhile (· == ' ') with
      | ']' :: rest => some (.list [], rest)
      | _ => none
  | _ => scalar least text

/-- The column and the text of the next token, from a column on. The text is empty at the end. -/
def nextToken : (column : Nat) → List Char → Nat × List Char
  | column, [] => (column, [])
  | column, character :: rest =>
      if character = ' ' then nextToken (column + 1) rest
      else if character = '\n' then nextToken 0 rest
      else (column, character :: rest)

/-- The next token behind a node, with which a line has to start. -/
def nextLine? (text : List Char) : Option (Nat × List Char) :=
  match text.dropWhile (· == ' ') with
  | [] => some (0, [])
  | '\n' :: rest => some (nextToken 0 rest)
  | _ => none

/-- Whether an item of a sequence starts here. -/
def startsItem : List Char → Bool
  | '-' :: rest => blankNext rest
  | _ => false

/-- The text behind the colon of a key. -/
def behindColon? (text : List Char) : Option (List Char) :=
  match text.dropWhile (· == ' ') with
  | ':' :: rest => if blankNext rest then some rest else none
  | _ => none

/-- Read a key, which stands on one line and is not too long, up to its colon. -/
def key? (least : Nat) (text : List Char) : Option (Node × List Char) := do
  let (key, rest) ← scalar least text
  let own := text.take (text.length - rest.length)
  if own.contains '\n' ∨ 1024 < own.length then none
  else return (key, ← behindColon? rest)

/-- What stands where a node is missing. -/
def missing : Node := .ofPlain []

mutual

/-- Read a node at a column; `least` is the least column that it may have. -/
def node : (fuel least column : Nat) → List Char → Option (Node × List Char)
  | 0, _, _, _ => none
  | fuel + 1, least, column, text =>
      if startsItem text then
        (items fuel column text).map fun (found, rest) => (.list found, rest)
      else match key? least text with
        | some _ => (fields fuel column text).map fun (found, rest) => (.mapping found, rest)
        | none => leaf least text

/-- Read the items of a sequence with dashes at a column. -/
def items : (fuel column : Nat) → List Char → Option (List Node × List Char)
  | 0, _, _ => none
  | fuel + 1, column, text => do
      let (item, rest) ← item fuel column (text.drop 1)
      let (next, behind) ← nextLine? rest
      if behind.isEmpty ∨ next < column ∨ next = column ∧ !startsItem behind then
        return ([item], rest)
      else if next = column then do
        let (others, rest) ← items fuel column behind
        return (item :: others, rest)
      else none

/-- Read an item behind its dash at a column. -/
def item : (fuel column : Nat) → List Char → Option (Node × List Char)
  | 0, _, _ => none
  | fuel + 1, column, text =>
      let (next, behind) := nextToken (column + 1) text
      if behind.isEmpty ∨ next ≤ column then some (missing, text)
      else node fuel (column + 1) next behind

/-- Read the fields of a mapping with keys at a column. -/
def fields : (fuel column : Nat) → List Char → Option (List (Node × Node) × List Char)
  | 0, _, _ => none
  | fuel + 1, column, text => do
      let (key, rest) ← key? (column + 1) text
      let (value, rest) ← value fuel column rest
      let (next, behind) ← nextLine? rest
      if behind.isEmpty ∨ next < column then return ([(key, value)], rest)
      else if next = column ∧ !startsItem behind then do
        let (others, rest) ← fields fuel column behind
        return ((key, value) :: others, rest)
      else none

/-- Read a value behind the colon of a key at a column. Only a scalar or an empty sequence stands on
the same line; a sequence below may have its dashes at the column of the key. -/
def value : (fuel column : Nat) → List Char → Option (Node × List Char)
  | 0, _, _ => none
  | fuel + 1, column, text =>
      match text.dropWhile (· == ' ') with
      | [] => some (missing, text)
      | '\n' :: rest =>
          let (next, behind) := nextToken 0 rest
          if behind.isEmpty ∨ next < column ∨ next = column ∧ !startsItem behind then
            some (missing, text)
          else node fuel (column + 1) next behind
      | inline => leaf (column + 1) inline

end

end Reader

/-- Read a text as one node. -/
def compose (text : List Char) : Option Node := do
  let (column, start) := Reader.nextToken 0 text
  let (found, rest) ← Reader.node (2 * text.length + 2) 0 column start
  let (_, behind) ← Reader.nextLine? rest
  if text.all Reader.isAllowed && behind.isEmpty then return found else none

/-- Read a text as one document. -/
def read (limits : Limits) (text : List Char) : Option Document := do
  Node.document? limits (← compose text)

end ScriptCheck.Yaml
