import ScriptCheck.Modern.Primary

/-!
# Expressions

Member expressions and calls, operators, arrow functions and assignments, from the tightest binding
to the loosest.
-/

namespace ScriptCheck.Modern

open ScriptCheck.Grammar

variable (inner : Phrases)

/-- Read arguments in brackets, each by `argument` unless it stands behind dots. -/
def argumentsBy (argument : Parse Node) : Parse (List Node) := do
  expect "("
  let nodes ← iterate ([] : List Node) fun nodes => do
    if ← isAtSign [")"] then return .inr nodes
    let node ← if ← isAtSign ["..."] then spread inner else isolated argument
    if !(← isAtSign [")"]) then expectSeparator
    return .inl (node :: nodes)
  expect ")"
  return nodes.reverse

/-- Read arguments. -/
def arguments : Parse (List Node) := argumentsBy inner inner.assignment

/-- Read arguments that may turn out to be the parameters of an asynchronous function. -/
def asyncArguments : Parse (List Node) :=
  argumentsBy inner do
    let node ← inner.assignment
    setContext fun context => { context with coverDefault := none }
    return node

/-- Read `new` with what it makes, or the target of `new` within a function. -/
def newExpression : Parse Node := do
  discard wordAsName
  if ← isAtSign ["."] then
    skipToken
    let token ← lookahead
    if token.isNamed "target" ∧ (← getContext).inFunction then
      discard wordAsName
      return .other
    failUnexpected token
  else if ← isAtKeyword ["import"] then failUnexpected (← lookahead)
  else
    discard (isolated inner.member)
    if ← isAtSign ["("] then discard (arguments inner)
    spoil
    return .other

/-- Read what members are taken from. -/
def memberBase : Parse Node := do
  inherited (if ← isAtKeyword ["new"] then newExpression inner else primary inner)

/-- Read the name of a member behind a point. -/
def dottedMember : Parse Unit := do
  becomeMember
  expect "."
  discard wordAsName

/-- Read a member in brackets. -/
def bracketedMember : Parse Unit := do
  becomeMember
  expect "["
  discard (isolated (expression inner))
  expect "]"

/-- Whether a template begins here. -/
def isAtTemplate : Parse Bool := do
  let token ← lookahead
  return token.kind == .template && token.opens

/-- Whether the parent of an object is meant here. -/
def isAtSuper : Parse Bool := do
  return (← isAtKeyword ["super"]) && (← getContext).inFunction

/-- Read the parent of an object, with one of some signs behind it. -/
def superBefore (signs : List String) : Parse Node := do
  skipToken
  if !(← isAtSign signs) then failUnexpected (← lookahead)
  return .other

/-- Read a call behind what is called. If the call turns out to be the parameters of an asynchronous
function, the parameters take its place. -/
def callOf (callee : Node) (maybeAsync : Bool) : Parse Node := do
  spoil
  let nodes ← if maybeAsync then asyncArguments inner else arguments inner
  match callee with
  | .importCall => if nodes.length ≠ 1 then tolerateBehind .badImportArity
  | _ => pure ()
  if maybeAsync ∧ (← isAtSign ["=>"]) then
    return .arrowParameters (Node.asPatterns nodes) true
  return .other

/-- Read a member expression with calls. -/
def callExpression : Parse Node := do
  let start ← lookahead
  let maybeAsync := start.isNamed "async"
  let outer ← getContext
  setContext fun context => { context with allowIn := true }
  let base ← if ← isAtSuper then superBefore ["(", ".", "["] else memberBase inner
  let node ← iterate base fun node => do
    if ← isAtSign ["."] then
      dottedMember
      return .inl .other
    if ← isAtSign ["("] then
      let sameLine := start.line == (← lookahead).line
      return .inl (← callOf inner node (maybeAsync && sameLine))
    if ← isAtSign ["["] then
      bracketedMember inner
      return .inl .other
    if ← isAtTemplate then
      templateLiteral inner
      return .inl .other
    return .inr node
  setContext fun context => { context with allowIn := outer.allowIn }
  return node

/-- Read a member expression without calls. -/
def memberExpression : Parse Node := do
  let base ← if ← isAtSuper then superBefore ["[", "."] else memberBase inner
  iterate base fun node => do
    if ← isAtSign ["["] then
      bracketedMember inner
      return .inl .other
    if ← isAtSign ["."] then
      dottedMember
      return .inl .other
    if ← isAtTemplate then
      templateLiteral inner
      return .inl .other
    return .inr node

/-- Check the operand of an increment or a decrement. -/
def checkOperand (node : Node) (complaint : Complaint) : Parse Unit := do
  let context ← getContext
  match node with
  | .name spelling =>
      if context.strict ∧ isRestricted spelling.text then tolerateBehind complaint
  | _ => pure ()
  if !context.isAssignable then tolerateBehind .invalidAssignmentTarget

/-- Read an increment or a decrement, or an operand without one. -/
def update : Parse Node := do
  if ← isAtSign ["++", "--"] then
    skipToken
    let node ← inherited inner.unary
    checkOperand node .strictPrefix
    spoil
    return .other
  let node ← inherited (callExpression inner)
  if !(← lineEnded) ∧ (← isAtSign ["++", "--"]) then
    checkOperand node .strictPostfix
    spoil
    skipToken
    return .other
  return node

/-- Read an operand with its operators in front. -/
def unary : Parse Node := do
  let token ← lookahead
  if token.isSign ["+", "-", "~", "!"] ∨ token.isKeyword ["delete", "void", "typeof"] then
    skipToken
    let node ← inherited inner.unary
    if (← getContext).strict ∧ token.value = "delete" ∧ node.isName then
      tolerateBehind .strictDelete
    spoil
    return .unary
  if (← getContext).allowAwait ∧ token.isNamed "await" then
    skipToken
    discard inner.unary
    return .other
  update inner

/-- Read an operand with its powers, which group to the right. -/
def power : Parse Node := do
  let node ← inherited (unary inner)
  match node with
  | .unary => return node
  | _ =>
      if ← isAtSign ["**"] then
        skipToken
        spoil
        discard (isolated inner.power)
        return .other
      return node

/-- The signs that stand between operands. -/
def binarySigns : List String :=
  ["||", "&&", "|", "^", "&", "==", "!=", "===", "!==", "<", ">", "<=", ">=", "<<", ">>", ">>>",
    "+", "-", "*", "/", "%"]

/-- Whether an operator between operands is next. -/
def isAtBinary : Parse Bool := do
  let token ← lookahead
  return token.isSign binarySigns || token.isKeyword ["instanceof"] ||
    ((← getContext).allowIn && token.isKeyword ["in"])

/-- Read operands with operators between them. How they group is of no interest here. -/
def binary : Parse Node := do
  let first ← inherited (power inner)
  if !(← isAtBinary) then return first
  skipToken
  spoil
  discard (isolated (power inner))
  iterate () fun _ => do
    if !(← isAtBinary) then return .inr .other
    skipToken
    discard (isolated (power inner))
    return .inl ()

/-- Read a choice between two expressions, or an expression without one. -/
def conditional : Parse Node := do
  let node ← inherited (binary inner)
  if !(← isAtSign ["?"]) then return node
  skipToken
  let outer ← getContext
  setContext fun context => { context with allowIn := true }
  discard (isolated inner.assignment)
  setContext fun context => { context with allowIn := outer.allowIn }
  expect ":"
  discard (isolated inner.assignment)
  spoil
  return .other

/-- Whether the next token can start an expression. -/
def canStartExpression (token : Token) : Bool :=
  match token.kind with
  | .sign =>
      ["[", "(", "\x7b", "+", "-", "!", "~", "++", "--", "/", "/="].contains token.value
  | .keyword =>
      ["class", "delete", "function", "let", "new", "super", "this", "typeof", "void",
        "yield"].contains token.value
  | _ => true

/-- Read what a generator yields. -/
def yieldExpression : Parse Node := do
  expectKeyword "yield"
  if ← lineEnded then return .yield false
  let outer ← getContext
  setContext fun context => { context with allowYield := false }
  let token ← lookahead
  let hasArgument ←
    if token.isSign ["*"] then
      skipToken
      discard inner.assignment
      pure true
    else if canStartExpression token then
      discard inner.assignment
      pure true
    else pure false
  setContext fun context => { context with allowYield := outer.allowYield }
  return .yield hasArgument

/-- Take a parameter of an arrow function. A default may not yield anything, and an asynchronous
function has no parameter `await`. -/
def arrowParameter (async : Bool) (parameters : Parameters) (node : Node) : Parse Parameters := do
  match node with
  | .defaulted _ (.yield true) => failUnexpected (← lookahead)
  | .name spelling => if async ∧ spelling.isSpelled "await" then failUnexpected (← lookahead)
  | _ => pure ()
  let strict := (← getContext).strict
  let named := node.boundNames.foldl (fun parameters name =>
    parameters.addName strict .phrase name) parameters
  return named.addNode node

/-- Take parameters of an arrow function, one by one. -/
def arrowParameters (async : Bool) : Parameters → List Node → Parse Parameters
  | parameters, [] => return parameters
  | parameters, node :: nodes => do
      arrowParameters async (← arrowParameter async parameters node) nodes

/-- Whether a phrase yields something. -/
def Node.isYield : Node → Bool
  | .yield _ => true
  | _ => false

/-- The parameters that an expression is, if it can be any. No name may be repeated. -/
def parametersOf? (node : Node) : Parse (Option Parameters) := do
  let (nodes, async) ← match node with
    | .name _ => pure ([node], false)
    | .arrowParameters nodes async => pure (nodes, async)
    | _ => return none
  let parameters ← arrowParameters async {} nodes
  let context ← getContext
  if (context.strict ∨ !context.allowYield) ∧ nodes.any Node.isYield then
    failUnexpected (← lookahead)
  if parameters.complaint = some .strictDuplicateParameter then
    failBehind .strictDuplicateParameter
  return some parameters

/-- Read the arrow and the body of an arrow function. -/
def arrowBody (parameters : Parameters) (async : Bool) : Parse Unit := do
  if ← lineEnded then tolerateUnexpected (← lookahead)
  setContext fun context => { context with coverDefault := none }
  withMeaning async true <| checkedBody .fatal parameters do
    expect "=>"
    if ← isAtSign ["\x7b"] then
      let outer ← getContext
      setContext fun context => { context with allowIn := true }
      functionBody inner
      setContext fun context => { context with allowIn := outer.allowIn }
    else discard (isolated inner.assignment)

/-- Read an assignment behind its target, which starts with the token `start`. -/
def assignmentTo (target : Node) (start : Token) : Parse Node := do
  let context ← getContext
  if !context.isAssignable then tolerateBehind .invalidAssignmentTarget
  match target with
  | .name spelling =>
      if context.strict ∧ isRestricted spelling.text then tolerateAbout start .strictAssignment
      if context.strict ∧ isStrictReserved spelling.text then
        tolerateAbout start .strictReservedWord
  | _ => pure ()
  let isPlain ← isAtSign ["="]
  if !isPlain then spoil
  skipToken
  let value ← isolated inner.assignment
  setContext fun context => { context with coverDefault := none }
  return .assignment (if isPlain then target.asPattern else target) value

/-- Read an expression without commas: a choice, an arrow function, an assignment, or what a
generator yields. -/
def assignment : Parse Node := do
  if !(← getContext).allowYield ∧ (← isAtKeyword ["yield"]) then return ← yieldExpression inner
  let start ← lookahead
  let first ← conditional inner
  let next ← lookahead
  let node ←
    if start.isNamed "async" ∧ start.line = next.line ∧
        (next.kind = .name ∨ next.isKeyword ["yield"]) then do
      let parameter ← primary inner
      pure (.arrowParameters [parameter.asPattern] true)
    else pure first
  match node with
  | .arrowParameters _ async => arrowFunction node async
  | _ =>
      if ← isAtSign ["=>"] then arrowFunction node false
      else if ← isAtSign assignmentSigns then assignmentTo inner node start
      else return node
where
  /-- Read the rest of an arrow function, if the expression in front of the arrow can be its
  parameters. -/
  arrowFunction (node : Node) (async : Bool) : Parse Node := do
    spoil
    match ← parametersOf? node with
    | none => return node
    | some parameters =>
        arrowBody inner parameters async
        return .other

end ScriptCheck.Modern
