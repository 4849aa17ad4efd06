import ScriptCheck.Text.CharacterName.Aliases
import ScriptCheck.Text.CharacterName.Alphabets
import ScriptCheck.Text.CharacterName.Historic
import ScriptCheck.Text.CharacterName.Notations
import ScriptCheck.Text.CharacterName.Scripts
import ScriptCheck.Text.CharacterName.Symbols
import ScriptCheck.Text.Digits

/-!
# Characters by name

The character that has a name in Unicode 14. Most names are listed. The syllables of Hangul are
named by their parts, and ideographs by their code points; for some kinds of ideographs that is part
of the listed names. Capitals matter only in the names that are not listed.
-/

namespace ScriptCheck.Text.CharacterName

/-- What is behind an opening of a text. -/
def behind? (opening : String) (text : List Char) : Option (List Char) :=
  let opening := opening.toList
  if opening.isPrefixOf text then some (text.drop opening.length) else none

/-- The opening consonants of syllables. -/
def leads : List String :=
  ["G", "GG", "N", "D", "DD", "R", "M", "B", "BB", "S", "SS", "", "J", "JJ", "C", "K", "T", "P",
    "H"]

/-- The vowels of syllables. -/
def vowels : List String :=
  ["A", "AE", "YA", "YAE", "EO", "E", "YEO", "YE", "O", "WA", "WAE", "OE", "YO", "U", "WEO", "WE",
    "WI", "YU", "EU", "YI", "I"]

/-- The closing consonants of syllables. -/
def tails : List String :=
  ["", "G", "GG", "GS", "N", "NJ", "NH", "D", "L", "LG", "LM", "LB", "LS", "LT", "LP", "LH", "M",
    "B", "BS", "S", "SS", "NG", "J", "C", "K", "T", "P", "H"]

/-- The syllable of parts that are spelled one behind the other. No two syllables are spelled
alike. -/
def syllable? (spelling : List Char) : Option Nat :=
  leads.zipIdx.findSome? fun (lead, leadIndex) => do
    let rest ← behind? lead spelling
    vowels.zipIdx.findSome? fun (vowel, vowelIndex) => do
      let rest ← behind? vowel rest
      let tailIndex ← tails.findIdx? (·.toList == rest)
      return 0xAC00 + (leadIndex * vowels.length + vowelIndex) * tails.length + tailIndex

/-- The digits of a code point. -/
def codeDigits (code : Nat) : List Char :=
  hexDigits .upper (if code < 0x10000 then 4 else 5) code

/-- The unified ideographs. -/
def ideographRanges : List (Nat × Nat) :=
  [(0x3400, 0x4DBF), (0x4E00, 0x9FFF), (0x20000, 0x2A6DF), (0x2A700, 0x2B738), (0x2B740, 0x2B81D),
    (0x2B820, 0x2CEA1), (0x2CEB0, 0x2EBE0), (0x30000, 0x3134A)]

/-- The unified ideograph of four or five digits. -/
def ideograph? (digits : List Char) : Option Nat :=
  let code := readDigits 16 digits
  let isWritten := (digits.length == 4 || digits.length == 5) &&
    digits == hexDigits .upper digits.length code
  if isWritten && ideographRanges.any fun (first, last) => first ≤ code && code ≤ last then
    some code
  else none

/-- Listed names that end in the code point, with the ranges that have them. -/
def numbered : List (String × Nat × Nat) :=
  [("CJK COMPATIBILITY IDEOGRAPH-", 0xF900, 0xFA6D),
    ("CJK COMPATIBILITY IDEOGRAPH-", 0xFA70, 0xFAD9),
    ("CJK COMPATIBILITY IDEOGRAPH-", 0x2F800, 0x2FA1D),
    ("KHITAN SMALL SCRIPT CHARACTER-", 0x18B00, 0x18CD5), ("NUSHU CHARACTER-", 0x1B170, 0x1B2FB)]

/-- The character with a numbered name. -/
def numbered? (name : List Char) : Option Nat :=
  numbered.findSome? fun (opening, first, last) => do
    let digits ← behind? opening name
    let code := readDigits 16 digits
    if first ≤ code ∧ code ≤ last ∧ codeDigits code = digits then some code else none

/-- All blocks. -/
def blocks : List (List Block) := [alphabets, symbols, scripts, historic, notations, aliases]

/-- The character with a listed name. -/
def listed? (name : List Char) : Option Nat :=
  (numbered? name).orElse fun _ =>
    blocks.findSome? fun list => list.findSome? (·.find? name)

end CharacterName

/-- The character with a name. -/
def characterNamed? (name : List Char) : Option Nat :=
  match CharacterName.behind? "HANGUL SYLLABLE " name with
  | some spelling => CharacterName.syllable? spelling
  | none =>
      match CharacterName.behind? "CJK UNIFIED IDEOGRAPH-" name with
      | some digits => CharacterName.ideograph? digits
      | none => CharacterName.listed? (name.map Char.toUpper)

end ScriptCheck.Text
