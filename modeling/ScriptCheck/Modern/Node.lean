import ScriptCheck.Grammar.Name

/-!
# Shapes of phrases

What later checks need to know about a phrase that was read: names, and how expressions can be taken
for patterns. All else about the tree is forgotten.
-/

namespace ScriptCheck.Modern

open ScriptCheck.Grammar (Name)

/-- The shape of an expression or of a pattern. -/
inductive Node where
  | name (spelling : Name)
  | literal (text : Option String)
  | array (elements : List Node)
  | object (values : List Node)
  | spread (argument : Node)
  | rest (argument : Node)
  | arrayPattern (elements : List Node)
  | objectPattern (values : List Node)
  | assignment (target value : Node)
  | defaulted (target value : Node)
  | sequence (parts : List Node)
  | yield (hasArgument : Bool)
  | unary
  | arrowParameters (parameters : List Node) (async : Bool)
  | importCall
  | other
  deriving Repr, Inhabited

namespace Node

/-- Whether a phrase is a name. -/
def isName : Node → Bool
  | .name _ => true
  | _ => false

/-- Whether a phrase is a name of this spelling. -/
def isNamed (node : Node) (spelling : String) : Bool :=
  match node with
  | .name found => found.isSpelled spelling
  | _ => false

/-- Whether a phrase is a literal: a number, a text, a truth value, nothing, or a pattern. -/
def isLiteral : Node → Bool
  | .literal _ => true
  | _ => false

/-- Whether a key of a property is a name or a text of this spelling. -/
def isKey (node : Node) (spelling : String) : Bool :=
  match node with
  | .name found => found.isSpelled spelling
  | .literal (some text) => text == spelling
  | _ => false

/-- Whether a pattern takes its value apart. -/
def isDestructuring : Node → Bool
  | .arrayPattern _ | .objectPattern _ => true
  | _ => false

mutual

/-- An expression taken for a pattern. What cannot be one stays as it is. -/
def asPattern : Node → Node
  | .spread argument => .rest (asPattern argument)
  | .array elements => .arrayPattern (asPatterns elements)
  | .object values => .objectPattern (asPatterns values)
  | .assignment target value => .defaulted (asPattern target) value
  | node => node

/-- Expressions taken for patterns. -/
def asPatterns : List Node → List Node
  | [] => []
  | node :: nodes => asPattern node :: asPatterns nodes

end

mutual

/-- The names that a pattern binds, in order. -/
def boundNames : Node → List Name
  | .name spelling => [spelling]
  | .rest argument => boundNames argument
  | .defaulted target _ => boundNames target
  | .arrayPattern elements => boundNamesOf elements
  | .objectPattern values => boundNamesOf values
  | _ => []

/-- The names that patterns bind, in order. -/
def boundNamesOf : List Node → List Name
  | [] => []
  | node :: nodes => boundNames node ++ boundNamesOf nodes

end

end Node

end ScriptCheck.Modern
