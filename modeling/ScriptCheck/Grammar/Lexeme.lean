import ScriptCheck.Grammar.Literal

/-!
# Reading names and signs

Names may have escapes, and signs are read as far as they go. Which characters names have, what
their escapes may be and which signs are long is for each grammar to say.
-/

namespace ScriptCheck.Grammar

variable {ε σ : Type} [Reading ε σ]

/-- Read the four digits of an escape in a name, which must name a character that fits there. -/
def fourDigitEscape (fits : Char → Bool) : EStateM ε σ Nat := do
  match ← hexEscape 4 0 with
  | none => failAtCursor
  | some code =>
      let character := Char.ofNat code
      if character = '\\' ∨ !fits character then failAtCursor
      return code

/-- The characters of names, and how an escape of one that fits its place is read behind its
backslash. -/
structure NameRules (ε σ : Type) where
  starts : Char → Bool
  continues : Char → Bool
  escape : (fits : Char → Bool) → EStateM ε σ Nat

namespace NameRules

variable (rules : NameRules ε σ)

/-- Read a name that has escapes. -/
def readEscaped : EStateM ε σ (List Nat) := do
  let first ← take
  let opening ← if first = '\\' then rules.escape rules.starts else pure first.toNat
  let codes ← iterate [opening] fun codes => do
    if ← atEnd then return .inr codes
    let character ← peek
    if !rules.continues character then return .inr codes
    advance 1
    if character = '\\' then
      let code ← rules.escape rules.continues
      return .inl (code :: codes)
    return .inl (character.toNat :: codes)
  return codes.reverse

/-- Read a name, from the start again if it turns out to have escapes. -/
def read : EStateM ε σ (List Nat) := do
  let start := (← getCursor).index
  let first ← peek
  if first = '\\' then rules.readEscaped
  else
    advance 1
    let rest ← takeWhile fun character => rules.continues character && character != '\\'
    if (← atEnd) ∨ (← peek) ≠ '\\' then return (first :: rest).map Char.toNat
    moveTo start
    rules.readEscaped

end NameRules

/-- The longest sign that some characters start with: one of the long ones, which stand longest
first, or one of a single character. -/
def signAt (longSigns : List String) (characters : List Char) : Option String :=
  match longSigns.find? fun sign => sign.toList.isPrefixOf characters with
  | some sign => some sign
  | none =>
      match characters with
      | [] => none
      | first :: _ =>
          if ".();,[]:?~<>=!+-*%&|^/\x7b\x7d".toList.contains first then
            some (String.singleton first)
          else none

/-- Read a sign. Braces of the code are noted when they open and forgotten when they close. -/
def readSign (longSigns : List String) : EStateM ε σ Token := do
  let start := (← getCursor).index
  match signAt longSigns (← slice start (start + 4)) with
  | some value =>
      if value = "\x7b" then openBrace .plain
      if value = "\x7d" then closeBrace
      advance value.length
      tokenFrom .sign value start
  | none => failAtCursor

end ScriptCheck.Grammar
