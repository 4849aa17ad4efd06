import ScriptCheck.Classic.Stepping

/-!
# Classic phrases that nest

Phrases of a script contain each other. The readers of phrases are handed those of the phrases
within them as a `Phrases` record, and `Classic.Program` ties the knot: one level of nesting is read
with the readers of the levels below it.
-/

namespace ScriptCheck.Classic

open ScriptCheck.Grammar

/-- What later checks need to know about an expression. -/
inductive Shape where
  | name (spelling : Name)
  | literal
  /-- An array or an object. It can be taken for a pattern unless something in it cannot. -/
  | brackets (isPattern : Bool)
  | function
  | assignment
  | other
  deriving DecidableEq, Repr, Inhabited

/-- An expression: its shape, and how many operators, members and calls are chained in it. -/
structure Node where
  shape : Shape
  links : Nat := 0
  deriving Repr, Inhabited

namespace Node

/-- Whether an expression is a name. -/
def isName (node : Node) : Bool :=
  match node.shape with
  | .name _ => true
  | _ => false

/-- Whether an expression is a literal. -/
def isLiteral (node : Node) : Bool :=
  match node.shape with
  | .literal => true
  | _ => false

/-- Whether an expression is a name that strict code may not bind. -/
def isRestrictedName (node : Node) : Bool :=
  match node.shape with
  | .name spelling => isRestricted spelling.text
  | _ => false

/-- Whether an expression can be taken for a pattern. A pattern holds no defaults, literals or
functions. -/
def isPattern (node : Node) : Bool :=
  match node.shape with
  | .literal | .function | .assignment => false
  | .brackets isPattern => isPattern
  | _ => true

/-- An operator, a member or a call on top of an expression. -/
def linked (node : Node) : Node := ⟨.other, node.links + 1⟩

/-- An operator between two expressions. -/
def joined (left right : Node) : Node := ⟨.other, max left.links right.links + 1⟩

end Node

/-- Readers of the phrases that may stand within other phrases. -/
structure Phrases where
  /-- An expression without commas. -/
  assignment : Parse Node
  /-- An operand with its operators in front. -/
  unary : Parse Node
  /-- A member expression without calls, as it stands behind `new`. -/
  callee : Parse Node
  /-- A statement. -/
  statement : Parse Unit
  /-- A statement or a declaration. -/
  item : Parse Unit

namespace Phrases

/-- Readers that refuse everything, for phrases that nest too deeply. -/
def refusing : Phrases where
  assignment := throw .tooDeep
  unary := throw .tooDeep
  callee := throw .tooDeep
  statement := throw .tooDeep
  item := throw .tooDeep

end Phrases

variable (inner : Phrases)

/-- Read an expression, perhaps several with commas between them. -/
def expression : Parse Node := do
  let first ← isolated inner.assignment
  if !(← isAtSign [","]) then return first
  whileSign "," (discard (isolated inner.assignment))
  return ⟨.other, first.links⟩

/-- Read a word of any kind as a name. -/
def wordAsName : Parse Unit := do
  let token ← nextToken
  if !token.isWord then failUnexpected token

/-- Read a name. -/
def plainName : Parse Token := do
  let token ← nextToken
  if token.kind ≠ .name then failUnexpected token
  return token

/-- Read a name that is bound. Patterns cannot be bound, and nothing is read past what is no
name. -/
def boundName : Parse Token := do
  let token ← lookahead
  if token.isSign ["["] then failUnsupported "ArrayPattern"
  if token.isSign ["\x7b"] then failUnsupported "ObjectPattern"
  if token.kind ≠ .name then failUnexpected token
  nextToken

/-- Refuse a text with octal digits in strict code. -/
def checkOctal (token : Token) : Parse Unit := do
  if (← getContext).strict ∧ token.kind = .text ∧ token.octal then failAbout token .strictOctal

/-- Read the key of a property. Keys in brackets are expressions. -/
def propertyKey : Parse Unit := do
  let token ← nextToken
  match token.kind with
  | .text | .number => checkOctal token
  | .name | .boolean | .null | .keyword => return
  | _ =>
      if !token.isSign ["["] then failUnexpected token
      discard (isolated inner.assignment)
      expect "]"

end ScriptCheck.Classic
