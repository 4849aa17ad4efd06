import ScriptCheck.Text.Lines

/-!
# Blocks of character names

Characters that follow each other often have names that begin alike. A block holds the common
opening once, and of each name what comes behind it.
-/

namespace ScriptCheck.Text.CharacterName

/-- Names of consecutive characters. What comes behind the opening stands in `endings`, in lines of
one name or several with semicolons between them. -/
structure Block where
  opening : String
  first : Nat
  endings : List String
  deriving Repr

/-- The character of a block that has a name. -/
def Block.find? (block : Block) (name : List Char) : Option Nat :=
  let opening := block.opening.toList
  if opening.isPrefixOf name then
    let ending := name.drop opening.length
    let endings := block.endings.flatMap fun line => cutAt ';' line.toList
    (endings.findIdx? (· == ending)).map (block.first + ·)
  else none

end ScriptCheck.Text.CharacterName
