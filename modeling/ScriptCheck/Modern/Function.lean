import ScriptCheck.Grammar.Parameters
import ScriptCheck.Modern.Binding

/-!
# Functions

Parameters, bodies with their directives, and the checks that a body makes on the names of its
parameters once it is known whether its code is strict.
-/

namespace ScriptCheck.Modern

open ScriptCheck.Grammar

/-- What a complaint about a parameter is about: a token, or a phrase that was first read as an
expression and has no place of its own. -/
inductive Culprit where
  | token (token : Token)
  | phrase
  deriving Repr, Inhabited

/-- The problem that a complaint about a parameter is. -/
def problemWith (culprit : Culprit) (complaint : Complaint) : Parse Problem :=
  match culprit with
  | .token token => problemAbout token complaint
  | .phrase => problemBehind complaint

/-- The parameters of a function. -/
structure Parameters extends BoundNames Culprit where
  nodes : List Node := []
  /-- Whether all parameters are names. -/
  simple : Bool := true
  deriving Repr, Inhabited

namespace Parameters

/-- Parameters with one more name. -/
def addName (parameters : Parameters) (strict : Bool) (culprit : Culprit) (name : Name) :
    Parameters :=
  { parameters with toBoundNames := parameters.add strict culprit name }

/-- Parameters with one more parameter, whose names were added before. -/
def addNode (parameters : Parameters) (node : Node) : Parameters :=
  { parameters with
    nodes := parameters.nodes ++ [node]
    simple := parameters.simple && node.isName }

end Parameters

variable (inner : Phrases)

/-- Read the rest of the parameters, which stands last and has no default. -/
def restParameter : Parse Target := do
  expect "..."
  let target ← inner.target .parameter
  if ← isAtSign ["="] then failBehind .defaultOfRest
  if !(← isAtSign [")"]) then failBehind .afterRestParameter
  return { target with node := .rest target.node }

/-- Read a parameter. -/
def parameter (parameters : Parameters) : Parse Parameters := do
  let target ←
    if ← isAtSign ["..."] then restParameter inner
    else targetWithDefault inner .parameter
  let strict := (← getContext).strict
  let named := target.names.foldl (fun parameters token =>
    parameters.addName strict (.token token) token.name) parameters
  return named.addNode target.node

/-- Read parameters in brackets, behind the name of the function. -/
def formalParameters (named : BoundNames Culprit) : Parse Parameters := do
  expect "("
  let parameters ← iterate ({ toBoundNames := named } : Parameters) fun parameters => do
    if (← isAtSign [")"]) ∨ (← isAtEndOfFile) then return .inr parameters
    let parameters ← parameter inner parameters
    if !(← isAtSign [")"]) then expect ","
    return .inl parameters
  expect ")"
  return parameters

/-- Read a directive: an expression statement that starts with a text. The characters of the text as
they are written are the directive, if it is the whole statement and not empty. -/
def directive : Parse (Option (List Char)) := do
  let token ← lookahead
  let node ← expression inner
  endStatement
  let raw ← slice (token.start + 1) (token.stop - 1)
  return if node.isLiteral ∧ !raw.isEmpty then some raw else none

/-- Read the directives at the start of code. Octal texts before the directive that makes code
strict are complained about when it comes. -/
def directives : Parse Unit :=
  iterate (none : Option Token) fun firstOctal => do
    let token ← lookahead
    if token.kind ≠ .text then return .inr ()
    match ← directive inner with
    | none => return .inr ()
    | some raw =>
        if raw = "use strict".toList then
          setContext fun context => { context with strict := true }
          match firstOctal with
          | some octal => tolerateAbout octal .strictOctal
          | none => pure ()
          if !(← getContext).allowDirective then tolerateAbout token .illegalDirective
          return .inl firstOctal
        return .inl (firstOctal <|> if token.octal then some token else none)

/-- Read the body of a function. Labels and loops around the function do not reach into it. -/
def functionBody : Parse Unit := do
  expect "\x7b"
  directives inner
  let outer ← getContext
  setContext fun context =>
    { context with labels := [], inLoop := false, inSwitch := false, inFunction := true }
  iterate () fun _ => do
    if (← isAtEndOfFile) ∨ (← isAtSign ["\x7d"]) then return .inr ()
    inner.item
    return .inl ()
  expect "\x7d"
  setContext fun context =>
    { context with
      labels := outer.labels
      inLoop := outer.inLoop
      inSwitch := outer.inSwitch
      inFunction := outer.inFunction }

/-- What is done about a complaint that turns up only when code turns out to be strict. -/
inductive Severity where
  | fatal
  | tolerated
  deriving DecidableEq, Repr

/-- Complain about parameters that strict code forbids. The first of them is as bad as `severity`
says. -/
def checkParameters (severity : Severity) (parameters : Parameters) : Parse Unit := do
  if (← getContext).strict then
    let complaint := parameters.complaint.getD .nothingExpected
    match parameters.firstRestricted with
    | some culprit =>
        let problem ← problemWith culprit complaint
        if severity = .fatal then failWith problem else tolerate problem
    | none => pure ()
    match parameters.restricted with
    | some culprit => tolerate (← problemWith culprit complaint)
    | none => pure ()

/-- Read a body with the checks on its parameters. Its directives concern this body only, and may
make it strict if all parameters are names. -/
def checkedBody (severity : Severity) (parameters : Parameters) (body : Parse Unit) :
    Parse Unit := do
  let outer ← getContext
  setContext fun context => { context with allowDirective := parameters.simple }
  body
  checkParameters severity parameters
  setContext fun context =>
    { context with strict := outer.strict, allowDirective := outer.allowDirective }

/-- Read a phrase in which `await` and `yield` have their special meaning, or have not. -/
def withMeaning {α : Type} (allowAwait allowYield : Bool) (phrase : Parse α) : Parse α := do
  let outer ← getContext
  setContext fun context => { context with allowAwait, allowYield }
  let result ← phrase
  setContext fun context =>
    { context with allowAwait := outer.allowAwait, allowYield := outer.allowYield }
  return result

/-- Read the body of a method. -/
def methodBody (parameters : Parameters) : Parse Unit := do
  spoil
  checkedBody .tolerated parameters (isolated (functionBody inner))

/-- Read a method from its parameters on. -/
def method : Parse Unit := do
  withMeaning (← getContext).allowAwait true do
    methodBody inner (← formalParameters inner {})

/-- Read an asynchronous method from its parameters on. -/
def asyncMethod : Parse Unit :=
  withMeaning true false do methodBody inner (← formalParameters inner {})

/-- Read a getter from its parameters on; it has none. -/
def getter : Parse Unit := do
  withMeaning (← getContext).allowAwait true do
    let parameters ← formalParameters inner {}
    if !parameters.nodes.isEmpty then tolerateBehind .badGetterArity
    methodBody inner parameters

/-- Read a setter from its parameters on; it has one. -/
def setter : Parse Unit := do
  withMeaning (← getContext).allowAwait true do
    let parameters ← formalParameters inner {}
    match parameters.nodes with
    | [.rest _] => tolerateBehind .badSetterRest
    | [_] => pure ()
    | _ => tolerateBehind .badSetterArity
    methodBody inner parameters

/-- Read a generator method from its parameters on. In its body, `yield` is an operator. -/
def generatorMethod : Parse Unit := do
  withMeaning (← getContext).allowAwait true do
    let parameters ← formalParameters inner {}
    setContext fun context => { context with allowYield := false }
    methodBody inner parameters

/-- Check the name of a function. A name that strict code forbids is remembered until it is known
whether the code of the function is strict. -/
def functionName (token : Token) : Parse (BoundNames Culprit) := do
  if (← getContext).strict then
    if isRestricted token.value then tolerateAbout token .strictFunctionName
    return {}
  return .ofFunction (.token token) token.name

/-- Read parameters and body of a function behind its name. -/
def functionRest (named : BoundNames Culprit) : Parse Unit := do
  let parameters ← formalParameters inner named
  checkedBody .fatal parameters (functionBody inner)

/-- Read the words that open a function: whether it is asynchronous, and whether it is a
generator. -/
def functionOpening : Parse (Bool × Bool) := do
  let async ← isAtName "async"
  if async then skipToken
  expectKeyword "function"
  let generator ← if async then pure false else isAtSign ["*"]
  if generator then skipToken
  return (async, generator)

/-- Read a function declaration, and tell whether it is a generator. The name may be missing only
where `nameless` allows it. -/
def functionDeclaration (nameless : Bool) : Parse Bool := do
  let (async, generator) ← functionOpening
  let named ←
    if !nameless ∨ !(← isAtSign ["("]) then
      let token ← lookahead
      discard (boundName .parameter)
      functionName token
    else pure {}
  withMeaning async (!generator) (functionRest inner named)
  return generator

/-- Read a function expression. -/
def functionExpression : Parse Unit := do
  let (async, generator) ← functionOpening
  withMeaning async (!generator) do
    let named ←
      if ← isAtSign ["("] then pure {}
      else
        let token ← lookahead
        if !(← getContext).strict ∧ !generator ∧ token.isKeyword ["yield"] then
          discard wordAsName
        else discard (boundName .parameter)
        functionName token
    functionRest inner named

end ScriptCheck.Modern
