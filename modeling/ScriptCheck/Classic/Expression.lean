import ScriptCheck.Classic.Function

/-!
# Classic expressions

Operands, operators and assignments. Constructs of later grammars are recognised and refused by
name.
-/

namespace ScriptCheck.Classic

open ScriptCheck.Grammar

variable (inner : Phrases)

/-- Read a group. Where it would be the parameters of an arrow function, it is refused. -/
def group : Parse Node := do
  expect "("
  if ← isAtSign [")"] then failUnsupported "ArrowFunction"
  let first ← inherited inner.assignment
  let node ←
    if ← isAtSign [","] then do
      becomeAssignable false
      whileSign "," (discard (inherited inner.assignment))
      pure ⟨.other, first.links⟩
    else pure first
  expect ")"
  if ← isAtSign ["=>"] then failUnsupported "ArrowFunction"
  return node

/-- Read an array, which may have gaps. -/
def array : Parse Node := do
  expect "["
  let isPattern ← iterate true fun isPattern => do
    if ← isAtSign ["]"] then return .inr isPattern
    if ← isAtSign [","] then
      skipToken
      return .inl isPattern
    let element ← inherited inner.assignment
    if !(← isAtSign ["]"]) then expect ","
    return .inl (isPattern && element.isPattern)
  skipToken
  return ⟨.brackets isPattern, 0⟩

/-- Read a property: a method, a key with a value, or a name that is both. The answer tells whether
it can be part of a pattern. -/
def property : Parse Bool := do
  let token ← lookahead
  propertyKey inner
  let next ← lookahead
  if token.isNamed "get" ∧ next.startsProperty then
    propertyKey inner
    getter inner
    return true
  else if token.isNamed "set" ∧ next.startsProperty then
    propertyKey inner
    setter inner
    return true
  else if next.isSign ["("] then
    method inner
    return true
  else if next.isSign [":"] then
    skipToken
    return (← inherited inner.assignment).isPattern
  else
    if token.kind ≠ .name then failUnexpected next
    if next.isSign ["="] then
      setContext fun context => { context with coverDefault := some next }
      skipToken
      discard (isolated inner.assignment)
    return true

/-- Read an object. Nothing is said about keys that are written twice. -/
def object : Parse Node := do
  expect "\x7b"
  let isPattern ← iterate true fun isPattern => do
    if ← isAtSign ["\x7d"] then return .inr isPattern
    let property ← property inner
    if !(← isAtSign ["\x7d"]) then expect ","
    return .inl (isPattern && property)
  expect "\x7d"
  return ⟨.brackets isPattern, 0⟩

/-- Refuse a template, which is known by its first piece. -/
def template : Parse Node := do
  skipToken
  failUnsupported "TemplateElement"

/-- Read an operand that starts with a keyword. -/
def keywordOperand : Parse Node := do
  becomeAssignable false
  if ← isAtKeyword ["function"] then
    function inner
    return ⟨.function, 0⟩
  else if ← isAtKeyword ["class"] then failUnsupported "ClassExpression"
  else
    let token ← nextToken
    if !token.isKeyword ["this"] then failUnexpected token
  return ⟨.other, 0⟩

/-- Read an operand. Truth values count as targets of assignments. -/
def primary : Parse Node := do
  let token ← lookahead
  match token.kind with
  | .name =>
      skipToken
      return ⟨.name token.name, 0⟩
  | .text | .number =>
      becomeAssignable false
      checkOctal token
      skipToken
      return ⟨.literal, 0⟩
  | .keyword => keywordOperand inner
  | .boolean =>
      skipToken
      return ⟨.literal, 0⟩
  | .null =>
      becomeAssignable false
      skipToken
      return ⟨.literal, 0⟩
  | .template => template
  | _ =>
      if token.isSign ["("] then inherited (group inner)
      else if token.isSign ["["] then inherited (array inner)
      else if token.isSign ["\x7b"] then inherited (object inner)
      else if token.isSign ["/", "/="] then
        becomeAssignable false
        nextPattern
        return ⟨.literal, 0⟩
      else failUnexpected (← nextToken)

/-- Read arguments in brackets. -/
def arguments : Parse Unit := do
  expect "("
  if !(← isAtSign [")"]) then
    iterate () fun _ => do
      discard (isolated inner.assignment)
      if ← isAtSign [")"] then return .inr ()
      expect ","
      return .inl ()
  expect ")"

/-- Read a `new` expression, which may do without arguments. -/
def construction : Parse Node := do
  expectKeyword "new"
  let callee ← isolated inner.callee
  if ← isAtSign ["("] then arguments inner
  becomeAssignable false
  return callee.linked

/-- Read what members and calls start from. -/
def chainStart : Parse Node := do
  if (← isAtKeyword ["super"]) ∧ (← getContext).inFunction then
    skipToken
    failUnsupported "Super"
  if ← isAtKeyword ["new"] then inherited (construction inner) else inherited (primary inner)

/-- Read one member or call behind an expression, if there is one. -/
def chainLink? (allowCall : Bool) : Parse Bool := do
  let token ← lookahead
  if token.isSign ["."] then
    becomeAssignable true
    skipToken
    wordAsName
    return true
  if token.isSign ["["] then
    becomeAssignable true
    skipToken
    discard (isolated (expression inner))
    expect "]"
    return true
  if allowCall ∧ token.isSign ["("] then
    becomeAssignable false
    arguments inner
    return true
  if token.kind = .template ∧ token.opens then discard template
  return false

/-- Read an expression with its members, and with its calls if they are allowed. -/
def chain (allowCall : Bool) : Parse Node := do
  let start ← chainStart inner
  iterate start fun node => do
    if ← chainLink? inner allowCall then return .inl node.linked
    return .inr node

/-- Read a member expression without calls. -/
def callee : Parse Node := chain inner false

/-- Read a member expression with calls, in which `in` is an operator. -/
def call : Parse Node := do
  let outer ← getContext
  setContext fun context => { context with allowIn := true }
  let node ← chain inner true
  setContext fun context => { context with allowIn := outer.allowIn }
  return node

/-- Refuse an operand that cannot be counted up or down. -/
def checkCounted (node : Node) (complaint : Complaint) : Parse Unit := do
  if (← getContext).strict ∧ node.isRestrictedName then failBehind complaint
  if !(← getContext).isAssignable then failBehind .invalidAssignmentTarget
  becomeAssignable false

/-- Read an operand, perhaps with a counting operator behind it on the same line. -/
def counted : Parse Node := do
  let node ← inherited (call inner)
  if !(← lineEnded) ∧ (← isAtSign ["++", "--"]) then
    checkCounted node .strictPostfix
    skipToken
    return node.linked
  return node

/-- Read an operand with its operators in front. -/
def unary : Parse Node := do
  let token ← lookahead
  if token.isSign ["++", "--"] then
    skipToken
    let node ← inherited inner.unary
    checkCounted node .strictPrefix
    return node.linked
  if token.isSign ["+", "-", "~", "!"] ∨ token.isKeyword ["delete", "void", "typeof"] then
    skipToken
    let node ← inherited inner.unary
    if (← getContext).strict ∧ token.isKeyword ["delete"] ∧ node.isName then
      failBehind .strictDelete
    becomeAssignable false
    return node.linked
  counted inner

/-- The signs that stand between operands. -/
def binarySigns : List String :=
  ["||", "&&", "|", "^", "&", "==", "!=", "===", "!==", "<", ">", "<=", ">=", "<<", ">>", ">>>",
    "+", "-", "*", "/", "%"]

/-- Whether an operator between operands is next. -/
def isAtBinary : Parse Bool := do
  let token ← lookahead
  return token.isSign binarySigns || token.isKeyword ["instanceof"] ||
    ((← getContext).allowIn && token.isKeyword ["in"])

/-- Read operands with operators between them. They are counted as if they grouped to the left. -/
def binary : Parse Node := do
  let first ← inherited (unary inner)
  if !(← isAtBinary) then return first
  becomeAssignable false
  iterate first fun node => do
    if !(← isAtBinary) then return .inr node
    skipToken
    return .inl (node.joined (← isolated (unary inner)))

/-- Read a choice between two expressions, or an expression without one. -/
def conditional : Parse Node := do
  let node ← inherited (binary inner)
  if !(← isAtSign ["?"]) then return node
  skipToken
  let outer ← getContext
  setContext fun context => { context with allowIn := true }
  discard (isolated inner.assignment)
  setContext fun context => { context with allowIn := outer.allowIn }
  expect ":"
  discard (isolated inner.assignment)
  becomeAssignable false
  return node.linked

/-- Refuse an expression that cannot be taken for a pattern. -/
def checkPattern (node : Node) : Parse Unit := do
  if !node.isPattern then failUnsupported "AssignmentPattern"

/-- Read an assignment behind its target, which starts with the token `start`. -/
def assignmentTo (target : Node) (start : Token) : Parse Node := do
  let context ← getContext
  if !context.isAssignable then failBehind .invalidAssignmentTarget
  if context.strict ∧ target.isRestrictedName then failAbout start .strictAssignment
  if ← isAtSign ["="] then checkPattern target else becomeAssignable false
  skipToken
  discard (isolated inner.assignment)
  setContext fun context => { context with coverDefault := none }
  return ⟨.assignment, target.links⟩

/-- Read an expression without commas: a choice or an assignment. -/
def assignment : Parse Node := do
  let start ← lookahead
  let node ← conditional inner
  modify fun state => { state with tallest := max state.tallest node.links }
  if ← isAtSign ["=>"] then failUnsupported "ArrowFunctionExpression"
  if ← isAtSign assignmentSigns then assignmentTo inner node start else return node

end ScriptCheck.Classic
