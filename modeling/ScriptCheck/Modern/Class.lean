import ScriptCheck.Modern.Function

/-!
# Classes

A class is strict code. Its elements are methods of several sorts, and two names are special: the
constructor, of which there is one at most, and the static property `prototype`, which cannot be.
-/

namespace ScriptCheck.Modern

open ScriptCheck.Grammar

/-- The sorts of methods. -/
inductive MethodKind where
  | plain
  | generator
  | accessor
  deriving DecidableEq, Repr

variable (inner : Phrases)

/-- The opening of a class element: the token that decides its sort, its key so far, and what was
said about it. -/
structure ElementOpening where
  token : Token
  key : Option Node
  computed : Bool := false
  isStatic : Bool := false
  isAsync : Bool := false

/-- Whether a bracket is next, so that the key that follows is computed. -/
def isAtBracket : Parse Bool := isAtSign ["["]

/-- Read `static` and `async` in front of an element, and its key. Each of the two words may itself
be the key. -/
def elementOpening : Parse ElementOpening := do
  let token ← lookahead
  if token.isSign ["*"] then
    skipToken
    return { token, key := none }
  let computed ← isAtBracket
  let key ← propertyKey inner
  let mut opening : ElementOpening := { token, key := some key, computed }
  let following ← lookahead
  if key.isNamed "static" ∧ (following.startsProperty ∨ following.isSign ["*"]) then
    opening := { opening with token := following, isStatic := true, computed := ← isAtBracket }
    if following.isSign ["*"] then skipToken
    else opening := { opening with key := some (← propertyKey inner) }
  if opening.token.isNamed "async" ∧ !(← lineEnded) then
    let following ← lookahead
    if !([":", "(", "*"].contains following.value) then
      let key ← propertyKey inner
      opening := { opening with token := following, key := some key, isAsync := true }
      if following.isNamed "constructor" then tolerateAbout following .constructorIsAsync
  return opening

/-- Read the method of a class element, and tell its key and its sort. -/
def elementMethod (opening : ElementOpening) : Parse (Node × Bool × MethodKind) := do
  let following ← lookahead
  let token := opening.token
  if token.isNamed "get" ∧ following.startsProperty then
    let computed ← isAtBracket
    let key ← propertyKey inner
    setContext fun context => { context with allowYield := false }
    getter inner
    return (key, computed, .accessor)
  if token.isNamed "set" ∧ following.startsProperty then
    let computed ← isAtBracket
    let key ← propertyKey inner
    setter inner
    return (key, computed, .accessor)
  if token.isSign ["*"] ∧ following.startsProperty then
    let computed ← isAtBracket
    let key ← propertyKey inner
    generatorMethod inner
    return (key, computed, .generator)
  match opening.key with
  | some key =>
      if following.isSign ["("] then
        if opening.isAsync then asyncMethod inner else method inner
        return (key, opening.computed, .plain)
      failUnexpected following
  | none => failUnexpected following

/-- Read a class element, and tell whether the class has a constructor now. -/
def classElement (hasConstructor : Bool) : Parse Bool := do
  let opening ← elementOpening inner
  let (key, computed, kind) ← elementMethod inner opening
  if computed then return hasConstructor
  if opening.isStatic then
    if key.isKey "prototype" then failAbout opening.token .staticPrototype
    return hasConstructor
  if key.isKey "constructor" then
    if kind ≠ .plain then failAbout opening.token .constructorIsAccessor
    if hasConstructor then failAbout opening.token .duplicateConstructor
    return true
  return hasConstructor

/-- Read the elements of a class in braces. -/
def classBody : Parse Unit := do
  expect "\x7b"
  discard <| iterate false fun hasConstructor => do
    if ← isAtSign ["\x7d"] then return .inr hasConstructor
    if ← isAtSign [";"] then
      skipToken
      return .inl hasConstructor
    return .inl (← classElement inner hasConstructor)
  expect "\x7d"

/-- Read a class whose name is read by `name`. -/
def classWith (name : Parse Unit) : Parse Unit := do
  let outer ← getContext
  setContext fun context => { context with strict := true }
  expectKeyword "class"
  name
  if ← isAtKeyword ["extends"] then
    skipToken
    discard (isolated inner.call)
  classBody inner
  setContext fun context => { context with strict := outer.strict }

/-- Read the name of a class if there is one. -/
def optionalName : Parse Unit := do
  if (← lookahead).kind = .name then discard (boundName .parameter)

/-- Read a class declaration. The name may be missing only where `nameless` allows it. -/
def classDeclaration (nameless : Bool) : Parse Unit :=
  classWith inner (if nameless then optionalName else discard (boundName .parameter))

/-- Read a class expression. -/
def classExpression : Parse Unit := classWith inner optionalName

end ScriptCheck.Modern
