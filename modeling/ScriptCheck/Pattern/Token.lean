import ScriptCheck.Text.CodePoints
import ScriptCheck.Text.Numerals
import ScriptCheck.Grammar.Character

/-!
# Tokens of patterns

A pattern is read as code points, where a backslash and what follows it are one token. Before that,
escaped code points of the form `\uXXXX` or with braces are put in place, whatever they stand for.
-/

namespace ScriptCheck.Pattern

open ScriptCheck.Text

/-- A character of a pattern, or a character behind a backslash. -/
inductive Token where
  | plain (code : Nat)
  | escaped (code : Nat)
  deriving DecidableEq, Repr, Inhabited

/-- The token of a plain character. -/
def Token.sign (character : Char) : Token := .plain character.toNat

/-- The tokens of a pattern, if no backslash stands at its end. -/
def tokens? : List Nat → Option (List Token)
  | [] => some []
  | [code] => if code = 0x5C then none else some [.plain code]
  | first :: second :: rest =>
      if first = 0x5C then (tokens? rest).map (.escaped second :: ·)
      else (tokens? (second :: rest)).map (.plain first :: ·)

/-- The code point that stands for characters beyond the first plane. -/
def astralSubstitute : Nat := 0xFFFF

/-- Hexadecimal digits in braces at the start of a text: their value, and the characters behind. -/
def bracedHex? : List Char → Option (Nat × List Char)
  | '\x7b' :: rest =>
      let digits := rest.takeWhile isHexDigit
      match rest.drop digits.length with
      | '\x7d' :: behind =>
          if digits.isEmpty then none else some (readDigits 16 digits, behind)
      | _ => none
  | _ => none

/-- Four hexadecimal digits at the start of a text: their value, and the characters behind. -/
def fourHex? (text : List Char) : Option (Nat × List Char) :=
  let digits := text.take 4
  if digits.length = 4 ∧ digits.all isHexDigit then some (readDigits 16 digits, text.drop 4)
  else none

/-- A pattern with its escaped code points in place. Behind it stands the number of those that are
too large for a character. `steps` bounds the number of characters. -/
def unescape : (steps : Nat) → List Char → List Nat × Nat
  | 0, _ => ([], 0)
  | _ + 1, [] => ([], 0)
  | steps + 1, '\\' :: 'u' :: rest =>
      match (bracedHex? rest).orElse fun _ => fourHex? rest with
      | some (code, behind) =>
          let (codes, excess) := unescape steps behind
          if 0x10FFFF < code then (astralSubstitute :: codes, excess + 1)
          else if 0xFFFF < code then (astralSubstitute :: codes, excess)
          else (code :: codes, excess)
      | none =>
          let (codes, excess) := unescape steps ('u' :: rest)
          (0x5C :: codes, excess)
  | steps + 1, character :: rest =>
      let (codes, excess) := unescape steps rest
      (character.toNat :: codes, excess)

/-- Code points with surrogate pairs put together. -/
def pairSurrogates : List Nat → List Nat
  | first :: second :: rest =>
      if isHighSurrogate first && isLowSurrogate second then
        astralSubstitute :: pairSurrogates rest
      else first :: pairSurrogates (second :: rest)
  | codes => codes

end ScriptCheck.Pattern
