import ScriptCheck.Text.CodePoints

/-!
# Names

The names of variables, parameters and labels. An escape in a name may stand for half of a surrogate
pair, and the two halves behind each other are not the same name as the character that they make. So
a name is its code points; what complaints show of it is a text.
-/

namespace ScriptCheck.Grammar

/-- The code points of a name. -/
structure Name where
  codes : List Nat
  deriving DecidableEq, Repr, Inhabited

namespace Name

/-- A name as complaints show it. -/
def text (name : Name) : String := Text.textOf name.codes

/-- Whether a name is spelled so. -/
def isSpelled (name : Name) (spelling : String) : Bool := name.text == spelling

end Name

end ScriptCheck.Grammar
