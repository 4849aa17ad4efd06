import ScriptCheck.Modern.Phrases

/-!
# Bindings

What is bound by a declaration, a parameter or a catch clause: a name, or a pattern of names.
-/

namespace ScriptCheck.Modern

open ScriptCheck.Grammar

variable (inner : Phrases)

/-- Read a target with an optional default. Within the default, `yield` is a name. -/
def targetWithDefault (kind : BindingKind) : Parse Target := do
  let target ← inner.target kind
  if ← isAtSign ["="] then
    skipToken
    let outer ← getContext
    setContext fun context => { context with allowYield := true }
    let value ← isolated inner.assignment
    setContext fun context => { context with allowYield := outer.allowYield }
    return { target with node := .defaulted target.node value }
  return target

/-- Read the rest of an array behind its dots. -/
def restOfArray (kind : BindingKind) : Parse Target := do
  expect "..."
  let target ← inner.target kind
  return { target with node := .rest target.node }

/-- Read an array pattern. Nothing may follow the rest. -/
def arrayPattern (kind : BindingKind) : Parse Target := do
  expect "["
  let elements ← iterate ([] : List Target) fun elements => do
    if ← isAtSign ["]"] then return .inr elements
    if ← isAtSign [","] then
      skipToken
      return .inl elements
    if ← isAtSign ["..."] then
      return .inr ((← restOfArray inner kind) :: elements)
    let element ← targetWithDefault inner kind
    if !(← isAtSign ["]"]) then expect ","
    return .inl (element :: elements)
  expect "]"
  let elements := elements.reverse
  return ⟨.arrayPattern (elements.map Target.node), elements.flatMap Target.names⟩

/-- Read a property of an object pattern: a key with a target, or a name that is both. -/
def propertyPattern (kind : BindingKind) : Parse Target := do
  let token ← lookahead
  if token.kind = .name then
    discard (boundName .parameter)
    if ← isAtSign ["="] then
      skipToken
      let value ← inner.assignment
      return ⟨.defaulted (.name token.name) value, [token]⟩
    if ← isAtSign [":"] then
      skipToken
      targetWithDefault inner kind
    else return ⟨.name token.name, [token]⟩
  else
    discard (propertyKey inner)
    expect ":"
    targetWithDefault inner kind

/-- Read the rest of an object, which stands last and has no default. -/
def restOfObject : Parse Target := do
  expect "..."
  let target ← inner.target .parameter
  if ← isAtSign ["="] then failBehind .defaultOfRest
  if !(← isAtSign ["\x7d"]) then failBehind .nothingExpected
  return { target with node := .rest target.node }

/-- Read an object pattern. -/
def objectPattern (kind : BindingKind) : Parse Target := do
  expect "\x7b"
  let properties ← untilSign "\x7d" do
    let property ← if ← isAtSign ["..."] then restOfObject inner else propertyPattern inner kind
    if !(← isAtSign ["\x7d"]) then expect ","
    return property
  expect "\x7d"
  return ⟨.objectPattern (properties.map Target.node), properties.flatMap Target.names⟩

/-- Read a target. `let` is no name for what `let` and `const` bind. -/
def target (kind : BindingKind) : Parse Target := do
  if ← isAtSign ["["] then arrayPattern inner kind
  else if ← isAtSign ["\x7b"] then objectPattern inner kind
  else
    let token ← lookahead
    if token.isKeyword ["let"] ∧ (kind = .mutable ∨ kind = .constant) then
      tolerateAbout token .letAsName
    let node ← boundName kind
    return ⟨node, [token]⟩

end ScriptCheck.Modern
