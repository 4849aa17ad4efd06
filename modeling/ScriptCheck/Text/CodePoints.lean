/-!
# Texts from code points

Escapes in scripts name code points by number. Two halves of a surrogate pair that follow each other
are one character; a half that stands alone is none and becomes U+FFFD.
-/

namespace ScriptCheck.Text

/-- Whether a code point is the first half of a surrogate pair. -/
def isHighSurrogate (code : Nat) : Bool := 0xD800 ≤ code && code ≤ 0xDBFF

/-- Whether a code point is the second half of a surrogate pair. -/
def isLowSurrogate (code : Nat) : Bool := 0xDC00 ≤ code && code ≤ 0xDFFF

/-- The character of a code point. -/
def characterOf (code : Nat) : Char :=
  if h : code.isValidChar then Char.ofNatAux code h else '\ufffd'

/-- The characters of code points. -/
def charactersOf : List Nat → List Char
  | [] => []
  | [code] => [characterOf code]
  | first :: second :: rest =>
      if isHighSurrogate first && isLowSurrogate second then
        characterOf (0x10000 + (first - 0xD800) * 0x400 + (second - 0xDC00)) :: charactersOf rest
      else characterOf first :: charactersOf (second :: rest)

/-- The text of code points. Texts with half of a surrogate pair in them are left out, so a half
that stands alone is shown as U+FFFD where a script could name it. -/
def textOf (codes : List Nat) : String := String.ofList (charactersOf codes)

end ScriptCheck.Text
