import ScriptCheck.Classic.Expression

/-!
# Classic statements

Declarations of variables, loops, branches, and statements that leave them.
-/

namespace ScriptCheck.Classic

open ScriptCheck.Grammar

variable (inner : Phrases)

/-- Read an expression in brackets, as the head of a statement. -/
def head : Parse Unit := do
  expect "("
  discard (expression inner)
  expect ")"

/-- Read the name of a variable. Strict code forbids some. -/
def variableName : Parse Unit := do
  let token ← boundName
  if (← getContext).strict ∧ isRestricted token.value then failBehind .strictVariableName

/-- Read the value of a variable behind an equals sign. -/
def value : Parse Bool := do
  expect "="
  discard (isolated inner.assignment)
  return true

/-- Read a variable declared by `var` or `let`, and tell whether it has a value. -/
def variableEntry : Parse Bool := do
  variableName
  if ← isAtSign ["="] then value inner else return false

/-- Read a constant, and tell whether it has a value. It has none only before `in`. -/
def constantEntry : Parse Bool := do
  variableName
  if ← isAtKeyword ["in"] then return false else value inner

/-- Read a variable declared by a word. -/
def declarator (word : String) : Parse Bool :=
  if word = "const" then constantEntry inner else variableEntry inner

/-- Read variables with commas between them. The answer tells of each whether it has a value. -/
def declarators (word : String) : Parse (List Bool) := do
  let first ← declarator inner word
  iterate [first] fun all => do
    if !(← isAtSign [","]) then return .inr all
    skipToken
    return .inl ((← declarator inner word) :: all)

/-- Read a declaration. -/
def declaration : Parse Unit := do
  discard (declarators inner (← nextToken).value)
  endStatement

/-- Read a block. -/
def block : Parse Unit := do
  expect "\x7b"
  untilSignOrEnd "\x7d" inner.item
  expect "\x7d"

/-- Read the body of a loop. -/
def loopBody (body : Parse Unit) : Parse Unit := do
  let outer ← getContext
  setContext fun context => { context with inLoop := true }
  body
  setContext fun context => { context with inLoop := outer.inLoop }

/-- Read an `if` statement. -/
def ifStatement : Parse Unit := do
  skipToken
  head inner
  inner.statement
  if ← isAtKeyword ["else"] then
    skipToken
    inner.statement

/-- Read a `do` loop. The semicolon behind it may be missing. -/
def doStatement : Parse Unit := do
  skipToken
  loopBody inner.statement
  expectKeyword "while"
  head inner
  if ← isAtSign [";"] then skipToken

/-- Read a `while` loop. -/
def whileStatement : Parse Unit := do
  skipToken
  head inner
  loopBody inner.statement

/-- Read a phrase in which `in` is no operator. -/
def withoutIn {α : Type} (phrase : Parse α) : Parse α := do
  let outer ← getContext
  setContext fun context => { context with allowIn := false }
  let result ← phrase
  setContext fun context => { context with allowIn := outer.allowIn }
  return result

/-- Read what a loop runs over. -/
def loopObject : Parse Bool := do
  discard (expression inner)
  return true

/-- Read the start of a loop that declares variables. The result tells whether the loop runs over
something; then it declares a single variable, which has no value unless it is declared by `var`. -/
def forDeclaration : Parse Bool := do
  let word := (← nextToken).value
  let all ← withoutIn (declarators inner word)
  let single := if word = "var" then all.length == 1 else all == [false]
  if single ∧ (← isAtKeyword ["in"]) then
    skipToken
    loopObject inner
  else
    if word = "var" then expect ";" else endStatement
    return false

/-- Read the start of a loop that declares nothing. -/
def forExpression : Parse Bool := do
  let first ← withoutIn (inherited inner.assignment)
  if ← isAtKeyword ["in"] then
    if !(← getContext).isAssignable then failBehind .invalidForInTarget
    skipToken
    checkPattern first
    loopObject inner
  else
    whileSign "," (discard (isolated inner.assignment))
    expect ";"
    return false

/-- Read a `for` loop. -/
def forStatement : Parse Unit := do
  skipToken
  expect "("
  let overSomething ←
    if ← isAtSign [";"] then
      skipToken
      pure false
    else if ← isAtKeyword ["var", "const", "let"] then forDeclaration inner
    else forExpression inner
  if !overSomething then
    if !(← isAtSign [";"]) then discard (expression inner)
    expect ";"
    if !(← isAtSign [")"]) then discard (expression inner)
  expect ")"
  loopBody (isolated inner.statement)

/-- Read the label of a statement that leaves another one, if there is a label, and the end of the
statement. A label has to be in force. -/
def leaving : Parse Bool := do
  let token ← lookahead
  let labelled := token.kind == .name
  if labelled then
    skipToken
    if !(← getContext).labels.contains token.name then failBehind (.unknownLabel token.value)
  endStatement
  return labelled

/-- Read a `continue` statement. It takes a semicolon even from a later line. -/
def continueStatement : Parse Unit := do
  skipToken
  let ended := (← lineEnded) && !(← isAtSign [";"])
  let labelled ← if ended then pure false else leaving
  if !labelled ∧ !(← getContext).inLoop then failBehind .illegalContinue

/-- Read a `break` statement. -/
def breakStatement : Parse Unit := do
  skipToken
  let labelled ← if ← lineEnded then pure false else leaving
  let context ← getContext
  if !labelled ∧ !context.inLoop ∧ !context.inSwitch then failBehind .illegalBreak

/-- Read a `return` statement. -/
def returnStatement : Parse Unit := do
  skipToken
  if !(← getContext).inFunction then failBehind .illegalReturn
  if ← lineEnded then return
  if !(← isAtSign [";", "\x7d"]) ∧ !(← isAtEndOfFile) then discard (expression inner)
  endStatement

/-- Read a `with` statement. -/
def withStatement : Parse Unit := do
  if (← getContext).strict then failBehind .strictWith
  skipToken
  head inner
  inner.statement

/-- Read a clause of a `switch` statement, and tell whether it is the default. -/
def switchClause : Parse Bool := do
  let isDefault ← isAtKeyword ["default"]
  if isDefault then skipToken
  else
    expectKeyword "case"
    discard (expression inner)
  expect ":"
  iterate () fun _ => do
    if (← isAtSign ["\x7d"]) ∨ (← isAtKeyword ["default", "case"]) ∨ (← isAtEndOfFile) then
      return .inr ()
    inner.item
    return .inl ()
  return isDefault

/-- Read a `switch` statement, which has one default at most. -/
def switchStatement : Parse Unit := do
  skipToken
  head inner
  expect "\x7b"
  let outer ← getContext
  setContext fun context => { context with inSwitch := true }
  iterate false fun hasDefault => do
    if (← isAtSign ["\x7d"]) ∨ (← isAtEndOfFile) then return .inr ()
    let isDefault ← switchClause inner
    if isDefault ∧ hasDefault then failBehind .severalDefaults
    return .inl (hasDefault || isDefault)
  expect "\x7d"
  setContext fun context => { context with inSwitch := outer.inSwitch }

/-- Read a statement that starts with a name, which may be its label. -/
def labelledStatement : Parse Unit := do
  let node ← expression inner
  match node.shape with
  | .name label =>
      if ← isAtSign [":"] then
        skipToken
        if (← getContext).labels.contains label then failBehind (.redeclaredLabel label.text)
        setContext fun context => { context with labels := label :: context.labels }
        inner.statement
        setContext fun context => { context with labels := context.labels.erase label }
      else endStatement
  | _ => endStatement

/-- Read a `throw` statement. -/
def throwStatement : Parse Unit := do
  skipToken
  if ← lineEnded then failBehind .newlineAfterThrow
  discard (expression inner)
  endStatement

/-- Read a `catch` clause. -/
def catchClause : Parse Unit := do
  skipToken
  expect "("
  if ← isAtSign [")"] then failUnexpected (← lookahead)
  let token ← boundName
  if (← getContext).strict ∧ isRestricted token.value then failBehind .strictCatchVariable
  expect ")"
  block inner

/-- Read a `try` statement, which has a clause at least. -/
def tryStatement : Parse Unit := do
  skipToken
  block inner
  let hasCatch ← isAtKeyword ["catch"]
  if hasCatch then catchClause inner
  let hasFinally ← isAtKeyword ["finally"]
  if hasFinally then
    skipToken
    block inner
  if !hasCatch ∧ !hasFinally then failBehind .noCatchOrFinally

/-- Read an expression as a statement. -/
def expressionStatement : Parse Unit := do
  discard (expression inner)
  endStatement

/-- Read a statement that starts with a keyword. -/
def keywordStatement (word : String) : Parse Unit := do
  if word = "break" then breakStatement
  else if word = "continue" then continueStatement
  else if word = "debugger" then
    skipToken
    endStatement
  else if word = "do" then doStatement inner
  else if word = "for" then forStatement inner
  else if word = "function" then function inner
  else if word = "if" then ifStatement inner
  else if word = "return" then returnStatement inner
  else if word = "switch" then switchStatement inner
  else if word = "throw" then throwStatement inner
  else if word = "try" then tryStatement inner
  else if word = "var" then declaration inner
  else if word = "while" then whileStatement inner
  else if word = "with" then withStatement inner
  else expressionStatement inner

/-- Read a statement. What it is made of may be assigned to at first, except in a block. -/
def statement : Parse Unit := do
  let token ← lookahead
  if token.kind = .endOfFile then failUnexpected token
  if token.isSign ["\x7b"] then block inner
  else
    becomeAssignable true
    match token.kind with
    | .keyword => keywordStatement inner token.value
    | .name => labelledStatement inner
    | _ => if token.isSign [";"] then skipToken else expressionStatement inner

/-- Read a statement or a declaration. -/
def item : Parse Unit := do
  let token ← lookahead
  if token.isKeyword ["export"] then failUnsupported "ExportDeclaration"
  else if token.isKeyword ["import"] then failUnsupported "ImportDeclaration"
  else if token.isKeyword ["class"] then failUnsupported "ClassDeclaration"
  else if token.isKeyword ["const", "let"] then declaration inner
  else if token.isKeyword ["function"] then function inner
  else statement inner

end ScriptCheck.Classic
