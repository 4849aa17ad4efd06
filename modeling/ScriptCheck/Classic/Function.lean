import ScriptCheck.Classic.Phrases
import ScriptCheck.Grammar.Parameters

/-!
# Classic functions

Parameters, bodies with their directives, and the checks that a body makes on the names of its
parameters once it is known whether its code is strict.
-/

namespace ScriptCheck.Classic

open ScriptCheck.Grammar

variable (inner : Phrases)

/-- Read a parameter, which may have a default. Dots in front of it are refused, even if they are
the characters of a text. -/
def parameter (bound : BoundNames Token) : Parse (BoundNames Token) := do
  let next ← lookahead
  if next.kind = .text ∧ next.value = "..." then failUnsupported "RestElement"
  let token ← boundName
  let strict := (← getContext).strict
  let bound := bound.add strict token token.name
  if ← isAtSign ["="] then
    skipToken
    discard (isolated inner.assignment)
  return if strict then bound else bound.settled

/-- Read parameters in brackets, behind the name of the function. -/
def formalParameters (named : BoundNames Token) : Parse (BoundNames Token) := do
  expect "("
  let bound ←
    if ← isAtSign [")"] then pure named
    else
      iterate named fun bound => do
        let bound ← parameter inner bound
        if ← isAtSign [")"] then return .inr bound
        expect ","
        return .inl bound
  expect ")"
  return bound

/-- Read the directives at the start of code: statements that are a text and nothing else. Octal
texts before the directive that makes code strict are complained about when it comes. -/
def directives : Parse Unit :=
  iterate (none : Option Token) fun firstOctal => do
    let token ← lookahead
    if token.kind ≠ .text then return .inr ()
    becomeAssignable true
    let node ← expression inner
    endStatement
    if !node.isLiteral then return .inr ()
    if (← slice (token.start + 1) (token.stop - 1)) = "use strict".toList then
      setContext fun context => { context with strict := true }
      match firstOctal with
      | some octal => failAbout octal .strictOctal
      | none => return .inl none
    return .inl (firstOctal <|> if token.octal then some token else none)

/-- Read the body of a function. Labels and loops around the function do not reach into it. -/
def functionBody : Parse Unit := do
  expect "\x7b"
  directives inner
  let outer ← getContext
  setContext fun context =>
    { context with labels := [], inLoop := false, inSwitch := false, inFunction := true }
  untilSignOrEnd "\x7d" inner.item
  expect "\x7d"
  setContext fun context =>
    { context with
      labels := outer.labels
      inLoop := outer.inLoop
      inSwitch := outer.inSwitch
      inFunction := outer.inFunction }

/-- Refuse names that strict code forbids, if the code is strict. -/
def checkNames (bound : BoundNames Token) : Parse Unit := do
  if (← getContext).strict then
    match bound.firstRestricted <|> bound.restricted with
    | some culprit => failAbout culprit (bound.complaint.getD .nothingExpected)
    | none => return

/-- Read a body and check the names in front of it. Directives of the body concern this body
only. -/
def checkedBody (bound : BoundNames Token) (body : Parse Unit) : Parse Unit := do
  let outer ← getContext
  body
  checkNames bound
  setContext fun context => { context with strict := outer.strict }

/-- Read the body of a method, which leaves nothing to assign to. -/
def methodBody (bound : BoundNames Token) : Parse Unit := do
  becomeAssignable false
  checkedBody bound (isolated (functionBody inner))

/-- Read a method from its parameters on. -/
def method : Parse Unit := do methodBody inner (← formalParameters inner {})

/-- Read a getter from its parameters on; it has none. -/
def getter : Parse Unit := do
  expect "("
  expect ")"
  methodBody inner {}

/-- Read a setter from its parameters on; it has one. -/
def setter : Parse Unit := do
  expect "("
  if ← isAtSign [")"] then failUnexpected (← lookahead)
  let bound ← parameter inner {}
  expect ")"
  methodBody inner bound

/-- Read the name of a function, if it has one. Strict code forbids some names. -/
def functionName : Parse (BoundNames Token) := do
  if ← isAtSign ["("] then return {}
  let token ← plainName
  if (← getContext).strict then
    if isRestricted token.value then failAbout token .strictFunctionName
    return {}
  return .ofFunction token token.name

/-- Read a function, as a declaration or within an expression. Either may do without a name. -/
def function : Parse Unit := do
  expectKeyword "function"
  let named ← functionName
  let bound ← formalParameters inner named
  checkedBody bound (functionBody inner)

end ScriptCheck.Classic
