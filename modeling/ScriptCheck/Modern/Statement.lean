import ScriptCheck.Modern.Expression

/-!
# Statements

Declarations of variables, loops, branches, and statements that leave them. A bracket that should
close the head of a statement but does not is tolerated, and the statement ends there.
-/

namespace ScriptCheck.Modern

open ScriptCheck.Grammar

variable (inner : Phrases)

/-- A declared variable: its target, and whether it has a value. -/
structure Declarator where
  node : Node
  hasValue : Bool
  deriving Repr, Inhabited

/-- Complain about a variable that strict code forbids. -/
def checkVariable (node : Node) (complaint : Complaint) : Parse Unit := do
  match node with
  | .name spelling =>
      if (← getContext).strict ∧ isRestricted spelling.text then tolerateBehind complaint
  | _ => pure ()

/-- Read a value behind an equals sign. -/
def value : Parse Unit := do
  skipToken
  discard (isolated inner.assignment)

/-- Read a variable declared by `var`. -/
def variableDeclarator (inFor : Bool) : Parse Declarator := do
  let target ← inner.target .variable
  checkVariable target.node .strictVariableName
  if ← isAtSign ["="] then
    value inner
    return ⟨target.node, true⟩
  if !target.node.isName ∧ !inFor then expect "="
  return ⟨target.node, false⟩

/-- Read a variable declared by `let` or `const`. A constant has a value. -/
def lexicalDeclarator (kind : BindingKind) (inFor : Bool) : Parse Declarator := do
  let target ← inner.target kind
  checkVariable target.node .strictVariableName
  if kind = .constant then
    if (← isAtKeyword ["in"]) ∨ (← isAtName "of") then return ⟨target.node, false⟩
    if ← isAtSign ["="] then
      value inner
      return ⟨target.node, true⟩
    failBehind (.missingInitializer "const")
  if (!inFor ∧ !target.node.isName) ∨ (← isAtSign ["="]) then
    expect "="
    discard (isolated inner.assignment)
    return ⟨target.node, true⟩
  return ⟨target.node, false⟩

/-- Read declarators with commas between them. -/
def declarators (declarator : Parse Declarator) : Parse (List Declarator) := do
  let first ← declarator
  let all ← iterate [first] fun all => do
    if ← isAtSign [","] then
      skipToken
      return .inl ((← declarator) :: all)
    return .inr all
  return all.reverse

/-- What `let` or `const` binds. -/
def lexicalKind (word : String) : BindingKind :=
  if word == "const" then .constant else .mutable

/-- Read a declaration by `let` or `const`. -/
def lexicalDeclaration : Parse Unit := do
  let kind := lexicalKind (← nextToken).value
  discard (declarators (lexicalDeclarator inner kind false))
  endStatement

/-- Whether `let` starts a declaration here. -/
def isAtLexicalDeclaration : Parse Bool := do
  let behind ← tokenBehind
  return behind.kind == .name || behind.isSign ["[", "\x7b"] || behind.isKeyword ["let", "yield"]

/-- Read a declaration by `var`. -/
def variableStatement : Parse Unit := do
  expectKeyword "var"
  discard (declarators (variableDeclarator inner false))
  endStatement

/-- Read a block. -/
def block : Parse Unit := do
  expect "\x7b"
  discard (untilSign "\x7d" inner.item)
  expect "\x7d"

/-- Read an expression as a statement. -/
def expressionStatement : Parse Unit := do
  discard (expression inner)
  endStatement

/-- Close the head of a statement and read what it is the head of. Without the bracket the statement
ends. -/
def closeHead (body : Parse Unit) : Parse Unit := do
  if ← isAtSign [")"] then
    skipToken
    body
  else tolerateUnexpected (← nextToken)

/-- Read a condition in brackets and what depends on it. -/
def headed (body : Parse Unit) : Parse Unit := do
  expect "("
  discard (expression inner)
  closeHead body

/-- Read the body of a loop. -/
def loopBody (body : Parse Unit) : Parse Unit := do
  let outer ← getContext
  setContext fun context => { context with inLoop := true }
  body
  setContext fun context => { context with inLoop := outer.inLoop }

/-- Read a branch. Strict code has no functions there. -/
def branch : Parse Unit := do
  if (← getContext).strict ∧ (← isAtKeyword ["function"]) then tolerateBehind .strictFunction
  inner.statement

/-- Read an `if` statement. -/
def ifStatement : Parse Unit := do
  expectKeyword "if"
  headed inner do
    branch inner
    if ← isAtKeyword ["else"] then
      skipToken
      branch inner

/-- Read a `do` loop. The semicolon behind it may be missing. -/
def doStatement : Parse Unit := do
  expectKeyword "do"
  loopBody inner.statement
  expectKeyword "while"
  headed inner do
    if ← isAtSign [";"] then skipToken

/-- Read a `while` loop. -/
def whileStatement : Parse Unit := do
  expectKeyword "while"
  headed inner (loopBody inner.statement)

/-- Read a phrase in which `in` is no operator. -/
def withoutIn {α : Type} (phrase : Parse α) : Parse α := do
  let outer ← getContext
  setContext fun context => { context with allowIn := false }
  let result ← phrase
  setContext fun context => { context with allowIn := outer.allowIn }
  return result

/-- Read what a loop runs over, behind `in`. -/
def loopObject : Parse Bool := do
  skipToken
  discard (expression inner)
  return true

/-- Read what a loop runs over, behind `of`. -/
def loopElements : Parse Bool := do
  skipToken
  discard inner.assignment
  return true

/-- Read the start of a loop that declares a variable with `var`. The result tells whether the loop
runs over something. -/
def forVariable : Parse Bool := do
  skipToken
  let all ← withoutIn (declarators (variableDeclarator inner true))
  match all with
  | [only] =>
      if ← isAtKeyword ["in"] then
        if only.hasValue ∧ (only.node.isDestructuring ∨ (← getContext).strict) then
          tolerateBehind (.loopInitializer "for-in")
        return ← loopObject inner
      if !only.hasValue ∧ (← isAtName "of") then return ← loopElements inner
  | _ => pure ()
  expect ";"
  return false

/-- Read the start of a loop that declares a variable with `let` or `const`. -/
def forLexical : Parse Bool := do
  let word := (← nextToken).value
  if !(← getContext).strict ∧ (← lookahead).value = "in" then return ← loopObject inner
  let all ← withoutIn (declarators (lexicalDeclarator inner (lexicalKind word) true))
  match all with
  | [⟨_, false⟩] =>
      if ← isAtKeyword ["in"] then return ← loopObject inner
      if ← isAtName "of" then return ← loopElements inner
  | _ => pure ()
  endStatement
  return false

/-- Check the target that a loop assigns to. -/
def checkLoopTarget (node : Node) (complaint : Complaint) : Parse Unit := do
  let isAssignment : Bool := match node with
    | .assignment .. => true
    | _ => false
  if !(← getContext).isAssignable ∨ isAssignment then tolerateBehind complaint

/-- Read the start of a loop that declares nothing. -/
def forExpression : Parse Bool := do
  let first ← withoutIn (inherited inner.assignment)
  if ← isAtKeyword ["in"] then
    checkLoopTarget first .invalidForInTarget
    return ← loopObject inner
  if ← isAtName "of" then
    checkLoopTarget first .invalidForLoopTarget
    return ← loopElements inner
  iterate () fun _ => do
    if ← isAtSign [","] then
      skipToken
      discard (isolated inner.assignment)
      return .inl ()
    return .inr ()
  expect ";"
  return false

/-- Read the condition and the step of a loop. -/
def forRest : Parse Unit := do
  if !(← isAtSign [";"]) then discard (expression inner)
  expect ";"
  if !(← isAtSign [")"]) then discard (expression inner)

/-- Read a `for` loop. -/
def forStatement : Parse Unit := do
  expectKeyword "for"
  expect "("
  let overSomething ←
    if ← isAtSign [";"] then
      skipToken
      pure false
    else if ← isAtKeyword ["var"] then forVariable inner
    else if ← isAtKeyword ["const", "let"] then forLexical inner
    else forExpression inner
  if !overSomething then forRest inner
  closeHead (loopBody (isolated inner.statement))

/-- Read the label of a statement that leaves another one, if there is a label. It has to be in
force. -/
def optionalLabel : Parse Bool := do
  if (← lookahead).kind ≠ .name ∨ (← lineEnded) then return false
  match ← boundName .parameter with
  | .name label =>
      if !(← getContext).labels.contains label then failBehind (.unknownLabel label.text)
      return true
  | _ => return true

/-- Read a `continue` statement. -/
def continueStatement : Parse Unit := do
  expectKeyword "continue"
  let labelled ← optionalLabel
  endStatement
  if !labelled ∧ !(← getContext).inLoop then failBehind .illegalContinue

/-- Read a `break` statement. -/
def breakStatement : Parse Unit := do
  expectKeyword "break"
  let labelled ← optionalLabel
  endStatement
  let context ← getContext
  if !labelled ∧ !context.inLoop ∧ !context.inSwitch then failBehind .illegalBreak

/-- Read a `return` statement. A text or a template on the next line belongs to it all the same. -/
def returnStatement : Parse Unit := do
  if !(← getContext).inFunction then tolerateBehind .illegalReturn
  expectKeyword "return"
  let token ← lookahead
  let ended := token.isSign [";", "\x7d"] || token.kind == .endOfFile || (← lineEnded)
  if !ended ∨ token.kind = .text ∨ token.kind = .template then discard (expression inner)
  endStatement

/-- Read a `with` statement. -/
def withStatement : Parse Unit := do
  if (← getContext).strict then tolerateBehind .strictWith
  expectKeyword "with"
  headed inner inner.statement

/-- Read a clause of a `switch` statement, and tell whether it is the default. -/
def switchClause : Parse Bool := do
  let isDefault ← isAtKeyword ["default"]
  if isDefault then skipToken
  else
    expectKeyword "case"
    discard (expression inner)
  expect ":"
  iterate () fun _ => do
    if (← isAtSign ["\x7d"]) ∨ (← isAtKeyword ["default", "case"]) then return .inr ()
    inner.item
    return .inl ()
  return isDefault

/-- Read a `switch` statement, which has one default at most. -/
def switchStatement : Parse Unit := do
  expectKeyword "switch"
  expect "("
  discard (expression inner)
  expect ")"
  let outer ← getContext
  setContext fun context => { context with inSwitch := true }
  expect "\x7b"
  discard <| iterate false fun hasDefault => do
    if ← isAtSign ["\x7d"] then return .inr hasDefault
    let isDefault ← switchClause inner
    if isDefault ∧ hasDefault then failBehind .severalDefaults
    return .inl (hasDefault || isDefault)
  expect "\x7d"
  setContext fun context => { context with inSwitch := outer.inSwitch }

/-- Read a statement behind its label. Classes are tolerated there, and functions unless the code is
strict or the function a generator. -/
def labelledBody : Parse Unit := do
  let token ← lookahead
  if token.isKeyword ["class"] then
    tolerateUnexpected token
    classDeclaration inner false
  else if token.isKeyword ["function"] then
    let generator ← functionDeclaration inner false
    if (← getContext).strict then tolerateAbout token .strictFunction
    else if generator then tolerateAbout token .generatorInLegacyPlace
  else inner.statement

/-- Read a statement that starts with a name, which may be its label. -/
def labelledStatement : Parse Unit := do
  let node ← expression inner
  match node with
  | .name label =>
      if ← isAtSign [":"] then
        skipToken
        if (← getContext).labels.contains label then failBehind (.redeclaredLabel label.text)
        setContext fun context => { context with labels := label :: context.labels }
        labelledBody inner
        setContext fun context => { context with labels := context.labels.erase label }
      else endStatement
  | _ => endStatement

/-- Read a `throw` statement. -/
def throwStatement : Parse Unit := do
  expectKeyword "throw"
  if ← lineEnded then failBehind .newlineAfterThrow
  discard (expression inner)
  endStatement

/-- Complain about each name that was bound before. -/
def checkDistinct : List Name → List Token → Parse Unit
  | _, [] => return
  | names, token :: tokens => do
      if names.contains token.name then tolerateBehind (.duplicateBinding token.value)
      checkDistinct (token.name :: names) tokens

/-- Read a `catch` clause. -/
def catchClause : Parse Unit := do
  expectKeyword "catch"
  expect "("
  if ← isAtSign [")"] then failUnexpected (← lookahead)
  let target ← inner.target .parameter
  checkDistinct [] target.names
  checkVariable target.node .strictCatchVariable
  expect ")"
  block inner

/-- Read a `try` statement, which has a clause at least. -/
def tryStatement : Parse Unit := do
  expectKeyword "try"
  block inner
  let hasCatch ← isAtKeyword ["catch"]
  if hasCatch then catchClause inner
  let hasFinally ← isAtKeyword ["finally"]
  if hasFinally then
    expectKeyword "finally"
    block inner
  if !hasCatch ∧ !hasFinally then failBehind .noCatchOrFinally

/-- Read a statement that starts with a keyword. -/
def keywordStatement (word : String) : Parse Unit := do
  if word == "break" then breakStatement
  else if word == "continue" then continueStatement
  else if word == "debugger" then
    skipToken
    endStatement
  else if word == "do" then doStatement inner
  else if word == "for" then forStatement inner
  else if word == "function" then discard (functionDeclaration inner false)
  else if word == "if" then ifStatement inner
  else if word == "return" then returnStatement inner
  else if word == "switch" then switchStatement inner
  else if word == "throw" then throwStatement inner
  else if word == "try" then tryStatement inner
  else if word == "var" then variableStatement inner
  else if word == "while" then whileStatement inner
  else if word == "with" then withStatement inner
  else expressionStatement inner

/-- Read a statement. -/
def statement : Parse Unit := do
  let token ← lookahead
  match token.kind with
  | .sign =>
      if token.value = "\x7b" then block inner
      else if token.value = ";" then expect ";"
      else expressionStatement inner
  | .name =>
      if ← isAtAsyncFunction then discard (functionDeclaration inner false)
      else labelledStatement inner
  | .keyword => keywordStatement inner token.value
  | .endOfFile => failUnexpected token
  | _ => expressionStatement inner

end ScriptCheck.Modern
