import ScriptCheck.Modern.Stepping

/-!
# Phrases that nest

Phrases of a script contain each other. The readers of phrases are handed those of the phrases
within them as a `Phrases` record, and `Modern.Program` ties the knot: one level of nesting is read
with the readers of the levels below it.
-/

namespace ScriptCheck.Modern

open ScriptCheck.Grammar

/-- What a name is bound by. -/
inductive BindingKind where
  | parameter
  | variable
  | mutable
  | constant
  deriving DecidableEq, Repr

/-- A target of a binding, with the tokens of the names in it. -/
structure Target where
  node : Node
  names : List Token
  deriving Repr, Inhabited

/-- Readers of the phrases that may stand within other phrases. -/
structure Phrases where
  /-- An expression without commas. -/
  assignment : Parse Node
  /-- An operand with its operators in front. -/
  unary : Parse Node
  /-- An operand with its powers. -/
  power : Parse Node
  /-- A member expression without calls, as it stands behind `new`. -/
  member : Parse Node
  /-- A member expression with calls. -/
  call : Parse Node
  /-- A name or a pattern that is bound. -/
  target : BindingKind → Parse Target
  /-- A statement. -/
  statement : Parse Unit
  /-- A statement or a declaration. -/
  item : Parse Unit

namespace Phrases

/-- Readers that refuse everything, for phrases that nest too deeply. -/
def refusing : Phrases where
  assignment := throw .tooDeep
  unary := throw .tooDeep
  power := throw .tooDeep
  member := throw .tooDeep
  call := throw .tooDeep
  target := fun _ => throw .tooDeep
  statement := throw .tooDeep
  item := throw .tooDeep

end Phrases

variable (inner : Phrases)

/-- Read an expression, perhaps several with commas between them. -/
def expression : Parse Node := do
  let first ← isolated inner.assignment
  if !(← isAtSign [","]) then return first
  let parts ← iterate [first] fun parts => do
    if ← isAtSign [","] then
      skipToken
      return .inl ((← isolated inner.assignment) :: parts)
    return .inr parts
  return .sequence parts.reverse

/-- Read a word of any kind as a name. -/
def wordAsName : Parse Node := do
  let token ← nextToken
  if !token.isWord then failUnexpected token
  return .name token.name

/-- Read a name that is bound. Reserved names are tolerated in strict code; `let` may name a
variable, and `yield` a name outside generators. -/
def boundName (kind : BindingKind) : Parse Node := do
  let token ← nextToken
  let context ← getContext
  if token.isKeyword ["yield"] then
    if context.strict then tolerateAbout token .strictReservedWord
    else if !context.allowYield then failUnexpected token
  else if token.kind ≠ .name then
    if context.strict ∧ token.kind = .keyword ∧ isStrictReserved token.value then
      tolerateAbout token .strictReservedWord
    else if context.strict ∨ token.value ≠ "let" ∨ kind ≠ .variable then failUnexpected token
  else if (context.isModule ∨ context.allowAwait) ∧ token.value = "await" then
    tolerateUnexpected token
  return .name token.name

/-- Read the key of a property. Keys in brackets are expressions. -/
def propertyKey : Parse Node := do
  let token ← nextToken
  match token.kind with
  | .text | .number =>
      if (← getContext).strict ∧ token.octal then tolerateAbout token .strictOctal
      return .literal (if token.kind = .text then some token.value else none)
  | .name | .boolean | .null | .keyword => return .name token.name
  | .sign =>
      if token.value = "[" then
        let key ← isolated inner.assignment
        expect "]"
        return key
      failUnexpected token
  | _ => failUnexpected token

end ScriptCheck.Modern
