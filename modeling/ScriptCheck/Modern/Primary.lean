import ScriptCheck.Modern.Class

/-!
# Primary expressions

Names, literals, and everything that stands in brackets: groups, arrays, objects and templates.
Arrow functions begin as groups, so a group may turn out to be a list of parameters.
-/

namespace ScriptCheck.Modern

open ScriptCheck.Grammar

variable (inner : Phrases)

/-- Read an expression behind dots. -/
def spread : Parse Node := do
  expect "..."
  return .spread (← inherited inner.assignment)

/-- Read an array. -/
def arrayLiteral : Parse Node := do
  expect "["
  let elements ← iterate ([] : List Node) fun elements => do
    if ← isAtSign ["]"] then return .inr elements
    if ← isAtSign [","] then
      skipToken
      return .inl elements
    if ← isAtSign ["..."] then
      let element ← spread inner
      if !(← isAtSign ["]"]) then
        spoil
        expect ","
      return .inl (element :: elements)
    let element ← inherited inner.assignment
    if !(← isAtSign ["]"]) then expect ","
    return .inl (element :: elements)
  expect "]"
  return .array elements.reverse

/-- Read what follows the key of an ordinary property: a value, a method, or nothing behind a name
that is its own value. The result tells whether the object has a prototype now. -/
def propertyRest (token : Token) (key : Option Node) (computed isAsync hasProto : Bool) :
    Parse (Node × Bool) := do
  let key ← match key with
    | some key => pure key
    | none => failUnexpected (← lookahead)
  if (← isAtSign [":"]) ∧ !isAsync then
    let isProto := !computed && key.isKey "__proto__"
    if isProto ∧ hasProto then tolerateBehind .duplicateProto
    skipToken
    return (← inherited inner.assignment, hasProto || isProto)
  if ← isAtSign ["("] then
    if isAsync then asyncMethod inner else method inner
    return (.other, hasProto)
  if token.kind = .name then
    if ← isAtSign ["="] then
      let sign ← nextToken
      setContext fun context => { context with coverDefault := some sign }
      let value ← isolated inner.assignment
      return (.defaulted (.name token.name) value, hasProto)
    return (.name token.name, hasProto)
  failUnexpected (← nextToken)

/-- Read a property of an object. The result tells whether the object has a prototype now. -/
def property (hasProto : Bool) : Parse (Node × Bool) := do
  let token ← lookahead
  let (key, computed, isAsync) ←
    if token.kind = .name then do
      skipToken
      let computed ← isAtBracket
      let isAsync := token.value == "async" && !(← lineEnded) &&
        !(← isAtSign [":", "(", "*", ","])
      let key ← if isAsync then propertyKey inner else pure (.name token.name)
      pure (some key, computed, isAsync)
    else if token.isSign ["*"] then do
      skipToken
      pure (none, false, false)
    else do
      let computed ← isAtBracket
      pure (some (← propertyKey inner), computed, false)
  let keyFollows := (← lookahead).startsProperty
  if token.isNamed "get" ∧ !isAsync ∧ keyFollows then
    discard (propertyKey inner)
    setContext fun context => { context with allowYield := false }
    getter inner
    return (.other, hasProto)
  if token.isNamed "set" ∧ !isAsync ∧ keyFollows then
    discard (propertyKey inner)
    setter inner
    return (.other, hasProto)
  if token.isSign ["*"] ∧ keyFollows then
    discard (propertyKey inner)
    generatorMethod inner
    return (.other, hasProto)
  propertyRest inner token key computed isAsync hasProto

/-- Read an object. -/
def objectLiteral : Parse Node := do
  expect "\x7b"
  let (values, _) ← iterate (([] : List Node), false) fun (values, hasProto) => do
    if ← isAtSign ["\x7d"] then return .inr (values, hasProto)
    let (value, hasProto) ←
      if ← isAtSign ["..."] then pure (← spread inner, hasProto) else property inner hasProto
    if !(← isAtSign ["\x7d"]) then expectSeparator
    return .inl (value :: values, hasProto)
  expect "\x7d"
  return .object values.reverse

/-- Read a template with the expressions in it. A piece that follows a substitution cannot begin a
template. -/
def templateLiteral : Parse Unit := do
  if !(← lookahead).opens then throw .headlessTemplate
  let first ← nextToken
  iterate first fun piece => do
    if piece.closes then return .inr ()
    discard (expression inner)
    if (← lookahead).kind ≠ .template then failBehind .illegal
    return .inl (← nextToken)

/-- The parameters of an arrow function that a group turned out to be. -/
def arrowGroup (parts : List Node) : Node := .arrowParameters (Node.asPatterns parts) false

/-- Require the arrow behind parameters, and leave it. -/
def requireArrow : Parse Unit := do
  if !(← isAtSign ["=>"]) then expect "=>"

/-- Read further parts of a group behind commas. The group is done if it ends with a comma or with
dots, which only parameters can do. -/
def groupParts (first : Node) : Parse (Node × Bool) := do
  setContext fun context => { context with isAssignable := false }
  iterate [first] fun parts => do
    if !(← isAtSign [","]) then return .inr (.sequence parts.reverse, false)
    skipToken
    if ← isAtSign [")"] then
      skipToken
      return .inr (arrowGroup parts.reverse, true)
    if ← isAtSign ["..."] then
      if !(← getContext).isBinding then failUnexpected (← lookahead)
      let rest ← restParameter inner
      expect ")"
      requireArrow
      setContext fun context => { context with isBinding := false }
      return .inr (arrowGroup (rest.node :: parts).reverse, true)
    return .inl ((← inherited inner.assignment) :: parts)

/-- Read a group in round brackets. If an arrow follows, the group is a list of parameters. -/
def group : Parse Node := do
  expect "("
  if ← isAtSign [")"] then
    skipToken
    requireArrow
    return .arrowParameters [] false
  if ← isAtSign ["..."] then
    let rest ← restParameter inner
    expect ")"
    requireArrow
    return .arrowParameters [rest.node] false
  setContext fun context => { context with isBinding := true }
  let first ← inherited inner.assignment
  let (node, done) ←
    if ← isAtSign [","] then groupParts inner first else pure (first, false)
  if done then return node
  expect ")"
  let isArrow ← isAtSign ["=>"]
  let node ←
    if isArrow then
      if node.isNamed "yield" then pure (.arrowParameters [node] false)
      else
        if !(← getContext).isBinding then failUnexpected (← lookahead)
        pure <| match node with
          | .sequence parts => arrowGroup parts
          | node => arrowGroup [node]
    else pure node
  setContext fun context => { context with isBinding := false }
  return node

/-- Whether the word behind `async` makes the name a function: it is `function`, on the same
line. -/
def isAtAsyncFunction : Parse Bool := do
  if !(← isAtName "async") then return false
  let line := (← getCursor).line
  let behind ← tokenBehind
  return line == behind.line && behind.isKeyword ["function"]

/-- Whether `import` is called like a function here. -/
def isAtImportCall : Parse Bool := do
  if !(← isAtKeyword ["import"]) then return false
  return (← tokenBehind).isSign ["("]

/-- Read a literal. Octal ones are tolerated in strict code. -/
def literal : Parse Node := do
  let token ← lookahead
  if (← getContext).strict ∧ token.octal then tolerateAbout token .strictOctal
  spoil
  skipToken
  return .literal (if token.kind = .text then some token.value else none)

/-- Read an expression that starts with a keyword. -/
def keywordExpression : Parse Node := do
  let context ← getContext
  if !context.strict ∧ context.allowYield ∧ (← isAtKeyword ["yield"]) then wordAsName
  else if !context.strict ∧ (← isAtKeyword ["let"]) then
    return .name (← nextToken).name
  else
    spoil
    if ← isAtKeyword ["function"] then
      functionExpression inner
      return .other
    if ← isAtKeyword ["this"] then
      skipToken
      return .other
    if ← isAtKeyword ["class"] then
      classExpression inner
      return .other
    if ← isAtImportCall then
      expectKeyword "import"
      return .importCall
    failUnexpected (← nextToken)

/-- Read an expression that no operator is part of. -/
def primary : Parse Node := do
  let token ← lookahead
  match token.kind with
  | .name =>
      let context ← getContext
      if (context.isModule ∨ context.allowAwait) ∧ token.value = "await" then
        tolerateUnexpected token
      if ← isAtAsyncFunction then
        functionExpression inner
        return .other
      return .name (← nextToken).name
  | .number | .text | .boolean | .null => literal
  | .template =>
      templateLiteral inner
      return .other
  | .keyword => keywordExpression inner
  | .sign =>
      if token.value = "(" then
        setContext fun context => { context with isBinding := false }
        inherited (group inner)
      else if token.value = "[" then inherited (arrayLiteral inner)
      else if token.value = "\x7b" then inherited (objectLiteral inner)
      else if token.value = "/" ∨ token.value = "/=" then
        spoil
        nextPattern
        return .literal none
      else failUnexpected (← nextToken)
  | .endOfFile | .pattern => failUnexpected (← nextToken)

end ScriptCheck.Modern
