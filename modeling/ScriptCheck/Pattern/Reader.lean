import ScriptCheck.Pattern.Token
import ScriptCheck.Text.CharacterName.Basic

/-!
# Reading patterns

Whether a text is a pattern is decided by reading it once: groups are counted and their widths kept,
since a reference needs a closed group and a look behind needs one width. A pattern that is none
gives no answer, whatever is wrong with it.
-/

namespace ScriptCheck.Pattern

open ScriptCheck.Text

/-- The least and the greatest number of characters that a pattern matches. -/
structure Width where
  least : Nat
  greatest : Nat
  deriving DecidableEq, Repr, Inhabited

namespace Width

/-- Widths are not told apart beyond this one, the number of words of 64 bits. -/
def limit : Nat := 18446744073709551616

/-- Nothing. -/
def zero : Width := ⟨0, 0⟩

/-- One character. -/
def one : Width := ⟨1, 1⟩

/-- One behind the other. -/
def append (left right : Width) : Width :=
  ⟨min limit (left.least + right.least), min limit (left.greatest + right.greatest)⟩

/-- Either of two. -/
def either (left right : Width) : Width :=
  ⟨min left.least right.least, max left.greatest right.greatest⟩

end Width

/-- The number of repetitions that means no limit. -/
def unlimited : Nat := 4294967295

/-- The number of groups that a pattern cannot have. -/
def groupLimit : Nat := 1073741823

/-- A width repeated between two counts. -/
def Width.times (width : Width) (least greatest : Nat) : Width :=
  ⟨min limit (width.least * least),
    if greatest = unlimited ∧ width.greatest ≠ 0 then limit
    else min limit (width.greatest * greatest)⟩

/-- What the last item of a sequence is; it decides whether it can be repeated. -/
inductive ItemKind where
  | anchor
  | repetition
  | other
  deriving DecidableEq, Repr

/-- The state of reading. -/
structure Reader where
  /-- The limits of the machine that reads. -/
  limits : Limits
  rest : List Token
  /-- The widths of the groups so far; an open group has none yet. -/
  groups : Array (Option Width) := #[]
  names : List (List Nat × Nat) := []
  /-- Within a look behind, the number of groups before it. -/
  groupsBefore : Option Nat := none
  /-- The greatest group that a condition asks for. -/
  greatestCondition : Nat := 0
  verbose : Bool := false
  ascii : Bool := false
  unicode : Bool := false
  template : Bool := false
  repeats : Bool := false
  deriving Repr

/-- A step of reading. -/
abbrev Read := StateT Reader Option

/-- No pattern. -/
def refuse {α : Type} : Read α := fun _ => none

/-- The next token. -/
def next : Read (Option Token) := do return (← get).rest.head?

/-- Read a token, if there is one. -/
def take : Read (Option Token) := do
  let reader ← get
  set { reader with rest := reader.rest.tail }
  return reader.rest.head?

/-- Read a token, which has to be there. -/
def demand : Read Token := do
  match ← take with
  | some token => return token
  | none => refuse

/-- Read a sign if it is next. -/
def accept (character : Char) : Read Bool := do
  if (← next) = some (.sign character) then
    discard take
    return true
  return false

/-- Read a sign, which has to be next. -/
def expect (character : Char) : Read Unit := do
  if !(← accept character) then refuse

/-- Read digits, at most `count` of them. -/
def takeDigits (isDigit : Char → Bool) : (count : Nat) → Read (List Char)
  | 0 => return []
  | count + 1 => do
      match ← next with
      | some (.plain code) =>
          if code < 0x80 ∧ isDigit (Char.ofNat code) then
            discard take
            return Char.ofNat code :: (← takeDigits isDigit count)
          return []
      | _ => return []

/-- Read all digits. -/
def takeAllDigits : Read (List Char) := do takeDigits isDecimalDigit (← get).rest.length

/-- Read exactly `count` hexadecimal digits. -/
def exactHex (count : Nat) : Read Nat := do
  let digits ← takeDigits isHexDigit count
  if digits.length ≠ count then refuse
  return readDigits 16 digits

/-- Read up to a sign, and the sign itself. What is before it may not be empty. -/
def takeUntil (terminator : Char) : Read (List Token) := do
  let reader ← get
  let name := reader.rest.takeWhile (· != Token.sign terminator)
  if name.isEmpty ∨ name.length = reader.rest.length then refuse
  set { reader with rest := reader.rest.drop (name.length + 1) }
  return name

/-- The code points of plain tokens. -/
def plainCodes? : List Token → Option (List Nat)
  | [] => some []
  | .plain code :: rest => (plainCodes? rest).map (code :: ·)
  | .escaped _ :: _ => none

/-- Letters that become other characters in the compatibility form of a text, which then is no
name. -/
def isUnstableLetter (code : Nat) : Bool :=
  code == 0x37A || code == 0x2E2F || (0xFC5E ≤ code && code ≤ 0xFC63) || code == 0xFDFA ||
    code == 0xFDFB || (0xFE70 ≤ code && code ≤ 0xFE7E && code % 2 == 0)

/-- Letters whose compatibility form starts with a mark. -/
def isMarkInside (code : Nat) : Bool :=
  code == 0xE33 || code == 0xEB3 || code == 0xFF9E || code == 0xFF9F

/-- Whether a code point can stand in the name of a group because it is a letter or counts as
one. -/
def isGroupLetter (code : Nat) : Bool :=
  let character := characterOf code
  code == 0x5F || (isLetter character && !isUnstableLetter code) ||
    (Grammar.isOtherStart character && code < 0x3000)

/-- Whether code points are the name of a group. -/
def isGroupName : List Nat → Bool
  | [] => false
  | first :: rest =>
      isGroupLetter first && !isMarkInside first && rest.all fun code =>
        isGroupLetter code || isMark (characterOf code) ||
          Grammar.isOtherPart (characterOf code)

/-- Read the name of a group up to a sign. -/
def groupName (terminator : Char) : Read (List Nat) := do
  match plainCodes? (← takeUntil terminator) with
  | some codes => if isGroupName codes then return codes else refuse
  | none => refuse

/-- The number of a named group. -/
def groupNamed (name : List Nat) : Read Nat := do
  match (← get).names.find? (·.1 == name) with
  | some (_, group) => return group
  | none => refuse

/-- The width of a group that is closed. Groups count from one. -/
def closedGroup (group : Nat) : Read Width := do
  match (← get).groups[group - 1]? with
  | some (some width) => return width
  | _ => refuse

/-- Within a look behind, only groups that were closed before it may be referred to. -/
def checkLookBehind (group : Nat) : Read Unit := do
  match (← get).groupsBefore with
  | none => return
  | some before =>
      discard (closedGroup group)
      if before < group then refuse

/-- Open a group, perhaps a named one, and give its number. -/
def openGroup (name : Option (List Nat)) : Read Nat := do
  let reader ← get
  let group := reader.groups.size + 1
  match name with
  | none => set { reader with groups := reader.groups.push none }
  | some name =>
      if (reader.names.find? (·.1 == name)).isSome then refuse
      set { reader with
        groups := reader.groups.push none
        names := (name, group) :: reader.names }
  return group

/-- Close a group. -/
def closeGroup (group : Nat) (width : Width) : Read Unit :=
  modify fun reader =>
    { reader with groups := reader.groups.setIfInBounds (group - 1) (some width) }

/-- What an escape stands for within a class: a code point, or a class of its own. -/
inductive ClassItem where
  | code (value : Nat)
  | category
  deriving DecidableEq

/-- The number of a letter that is escaped for a control character. -/
def controlEscape? (letter : Char) : Option Nat :=
  if letter = 'a' then some 7
  else if letter = 'b' then some 8
  else if letter = 'f' then some 12
  else if letter = 'n' then some 10
  else if letter = 'r' then some 13
  else if letter = 't' then some 9
  else if letter = 'v' then some 11
  else none

/-- Read the name of a character in braces. -/
def namedCode : Read Nat := do
  expect '\x7b'
  match plainCodes? (← takeUntil '\x7d') with
  | none => refuse
  | some codes =>
      match characterNamed? (codes.map characterOf) with
      | some code => return code
      | none => refuse

/-- Read an escape that tells a code point behind its letter, if it is one: by hexadecimal digits,
or by the name of a character. -/
def codeEscape? (letter : Char) : Read (Option Nat) := do
  if letter = 'x' then return some (← exactHex 2)
  if letter = 'u' then return some (← exactHex 4)
  if letter = 'U' then
    let value ← exactHex 8
    if 0x10FFFF < value then refuse
    return some value
  if letter = 'N' then return some (← namedCode)
  return none

/-- The character of an escape; beyond ASCII any character will do. -/
def escapeLetter (code : Nat) : Char := if code < 0x80 then Char.ofNat code else '\x80'

/-- Read the rest of an escape within a class. -/
def classEscape (code : Nat) : Read ClassItem := do
  let letter := escapeLetter code
  if "dDsSwW".toList.contains letter then return .category
  match controlEscape? letter with
  | some value => return .code value
  | none =>
      match ← codeEscape? letter with
      | some value => return .code value
      | none =>
          if isOctalDigit letter then
            let digits ← takeDigits isOctalDigit 2
            let value := readDigits 8 (letter :: digits)
            if 255 < value then refuse
            return .code value
          else if letter.isAlphanum then refuse
          else return .code code

/-- Read an item of a class from its token on. -/
def classItem : Token → Read ClassItem
  | .plain code => return .code code
  | .escaped code => classEscape code

/-- Read a class behind its opening bracket. A closing bracket that comes first stands for
itself. -/
def readClass : (turns : Nat) → (isEmpty : Bool) → Read Unit
  | 0, _ => refuse
  | turns + 1, isEmpty => do
      let token ← demand
      if token = .sign ']' ∧ !isEmpty then return
      let low ← classItem token
      if ← accept '-' then
        let token ← demand
        if token = .sign ']' then return
        let high ← classItem token
        match low, high with
        | .code low, .code high => if high < low then refuse
        | _, _ => refuse
      readClass turns false

/-- Read the rest of an escape outside classes: an anchor has no width, a reference has that of its
group, all else is one character. -/
def readEscape (code : Nat) : Read (ItemKind × Width) := do
  let letter := escapeLetter code
  if "AbBZ".toList.contains letter then return (.anchor, .zero)
  if "dDsSwW".toList.contains letter ∨ (controlEscape? letter).isSome then return (.other, .one)
  if (← codeEscape? letter).isSome then return (.other, .one)
  if letter = '0' then
    discard (takeDigits isOctalDigit 2)
    return (.other, .one)
  if isDecimalDigit letter then
    let second ← takeDigits isDecimalDigit 1
    if second.all isOctalDigit ∧ second ≠ [] ∧ isOctalDigit letter then
      let third ← takeDigits isOctalDigit 1
      if third ≠ [] then
        if 255 < readDigits 8 (letter :: second ++ third) then refuse
        return (.other, .one)
    let group := readDigits 10 (letter :: second)
    let width ← closedGroup group
    checkLookBehind group
    return (.other, width)
  if letter.isAlpha then refuse
  return (.other, .one)

/-- Flags that an opening bracket turns on and off. -/
structure Flags where
  ascii : Bool := false
  unicode : Bool := false
  template : Bool := false
  verbose : Bool := false
  others : List Char := []

/-- Turn on a flag. The flags for character sets exclude each other. -/
def Flags.turnOn (flags : Flags) (letter : Char) : Option Flags :=
  if letter = 'a' then if flags.unicode then none else some { flags with ascii := true }
  else if letter = 'u' then if flags.ascii then none else some { flags with unicode := true }
  else if letter = 't' then some { flags with template := true }
  else if letter = 'x' then some { flags with verbose := true }
  else if letter = 'i' ∨ letter = 'm' ∨ letter = 's' then
    some { flags with others := letter :: flags.others }
  else none

/-- The character of a plain token. -/
def Token.character : Token → Char
  | .plain code => characterOf code
  | .escaped _ => '\\'

/-- Read flags to turn on, up to and with the sign that ends them. -/
def readFlags : (turns : Nat) → Flags → Char → Read (Flags × Char)
  | 0, _, _ => refuse
  | turns + 1, flags, letter => do
      match flags.turnOn letter with
      | none => refuse
      | some flags =>
          let following := (← demand).character
          if following = ')' ∨ following = '-' ∨ following = ':' then return (flags, following)
          else readFlags turns flags following

/-- Read flags to turn off, up to and with the colon that ends them. Character sets and templates
cannot be turned off. -/
def readOffFlags : (turns : Nat) → Flags → Char → Read Flags
  | 0, _, _ => refuse
  | turns + 1, flags, letter => do
      if letter = 'a' ∨ letter = 'u' then refuse
      match flags.turnOn letter with
      | none => refuse
      | some flags =>
          let following := (← demand).character
          if following = ':' then return flags
          else readOffFlags turns flags following

/-- Whether two sets of flags have one in common. -/
def Flags.meets (left right : Flags) : Bool :=
  (left.verbose && right.verbose) || left.others.any right.others.contains

/-- What an opening bracket with flags does. -/
inductive FlagScope where
  /-- The flags hold for the whole pattern. -/
  | everywhere (flags : Flags)
  /-- The flags hold within the brackets. -/
  | within (on off : Flags)

/-- Read flags from the first letter or the minus sign on. -/
def readFlagScope (first : Char) : Read FlagScope := do
  let turns := (← get).rest.length + 1
  let (on, ending) ← if first = '-' then pure ({}, '-') else readFlags turns {} first
  if ending = ')' then return .everywhere on
  if on.template then refuse
  if ending = ':' then return .within on {}
  let off ← readOffFlags turns {} (← demand).character
  if off.template ∨ on.meets off then refuse
  return .within on off

end ScriptCheck.Pattern
