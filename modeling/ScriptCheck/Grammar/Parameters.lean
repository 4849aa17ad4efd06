import ScriptCheck.Grammar.Token

/-!
# Names of functions and parameters

Strict code forbids some names for functions and parameters, but whether the code of a function is
strict is known only from its body. So the names are collected first, with what would be wrong with
them.
-/

namespace ScriptCheck.Grammar

/-- The names of a function and its parameters that were read so far. A culprit is what a complaint
about a name is about. -/
structure BoundNames (Culprit : Type) where
  names : List Name := []
  /-- The first name that strict code forbids, found before the code was known to be strict. -/
  firstRestricted : Option Culprit := none
  /-- A parameter that strict code forbids, or one that repeats another. -/
  restricted : Option Culprit := none
  /-- What is wrong with the name that was found last. -/
  complaint : Option Complaint := none
  deriving Repr, Inhabited

namespace BoundNames

variable {Culprit : Type}

/-- Names with one more parameter. -/
def add (bound : BoundNames Culprit) (strict : Bool) (culprit : Culprit) (name : Name) :
    BoundNames Culprit :=
  let repeated := bound.names.contains name
  let checked :=
    if strict then
      let checked :=
        if isRestricted name.text then
          { bound with restricted := some culprit, complaint := some .strictParameterName }
        else bound
      if repeated then
        { checked with restricted := some culprit, complaint := some .strictDuplicateParameter }
      else checked
    else if bound.firstRestricted.isSome then bound
    else if isRestricted name.text then
      { bound with firstRestricted := some culprit, complaint := some .strictParameterName }
    else if isStrictReserved name.text then
      { bound with firstRestricted := some culprit, complaint := some .strictReservedWord }
    else if repeated then
      { bound with restricted := some culprit, complaint := some .strictDuplicateParameter }
    else bound
  { checked with names := name :: checked.names }

/-- Names of which the first one that was found at fault stays at fault, be it forbidden or
repeated. -/
def settled (bound : BoundNames Culprit) : BoundNames Culprit :=
  { bound with firstRestricted := bound.firstRestricted <|> bound.restricted }

/-- The names before the first parameter, where the function itself has a name. It is no
parameter. -/
def ofFunction (culprit : Culprit) (name : Name) : BoundNames Culprit :=
  if isRestricted name.text then
    { firstRestricted := some culprit, complaint := some .strictFunctionName }
  else if isStrictReserved name.text then
    { firstRestricted := some culprit, complaint := some .strictReservedWord }
  else {}

end BoundNames

end ScriptCheck.Grammar
