import ScriptCheck.Modern.Statement

/-!
# Imports and exports

The declarations that make a script a module, and the items of which scripts and modules consist.
They are tolerated in scripts.
-/

namespace ScriptCheck.Modern

open ScriptCheck.Grammar

variable (inner : Phrases)

/-- Read the name of a module. -/
def moduleName : Parse Unit := do
  if (← lookahead).kind ≠ .text then failBehind .invalidModuleName
  skipToken

/-- Complain that no module is named. -/
def failWithoutModule {α : Type} : Parse α := do
  let token ← lookahead
  requireShown token
  failBehind (if token.isBlank then .nothingExpected else .unexpectedToken token.value)

/-- Read `from` and the name of a module. -/
def fromModule : Parse Unit := do
  if !(← isAtName "from") then failWithoutModule
  skipToken
  moduleName

/-- Read a name that is imported, perhaps under another name. Words that are no names need one. -/
def importSpecifier : Parse Unit := do
  if (← lookahead).kind = .name then
    discard (boundName .parameter)
    if ← isAtName "as" then
      skipToken
      discard (boundName .parameter)
  else
    discard wordAsName
    if !(← isAtName "as") then failUnexpected (← nextToken)
    skipToken
    discard (boundName .parameter)

/-- Read specifiers in braces. -/
def bracedSpecifiers (specifier : Parse Unit) : Parse Unit := do
  expect "\x7b"
  discard <| untilSign "\x7d" do
    specifier
    if !(← isAtSign ["\x7d"]) then expect ","
  expect "\x7d"

/-- Read the name under which a whole module is imported. -/
def namespaceSpecifier : Parse Unit := do
  expect "*"
  if !(← isAtName "as") then failBehind .noAsAfterNamespace
  skipToken
  discard wordAsName

/-- Read what is imported. -/
def moduleClause : Parse Unit := do
  let token ← lookahead
  if token.isSign ["\x7b"] then bracedSpecifiers importSpecifier
  else if token.isSign ["*"] then namespaceSpecifier
  else if token.isWord ∧ !token.isKeyword ["default"] then
    discard wordAsName
    if ← isAtSign [","] then
      skipToken
      if ← isAtSign ["*"] then namespaceSpecifier
      else if ← isAtSign ["\x7b"] then bracedSpecifiers importSpecifier
      else failUnexpected (← lookahead)
  else failUnexpected (← nextToken)

/-- Read an import. -/
def moduleImport : Parse Unit := do
  if (← getContext).inFunction then failBehind .illegalImport
  expectKeyword "import"
  if (← lookahead).kind = .text then moduleName
  else
    moduleClause
    fromModule
  endStatement

/-- Read a name that is exported, perhaps under another name. -/
def exportSpecifier : Parse Unit := do
  discard wordAsName
  if ← isAtName "as" then
    skipToken
    discard wordAsName

/-- Read what a module exports by default. -/
def exportDefault : Parse Unit := do
  skipToken
  if ← isAtKeyword ["function"] then discard (functionDeclaration inner true)
  else if ← isAtKeyword ["class"] then classDeclaration inner true
  else if ← isAtName "async" then
    if ← isAtAsyncFunction then discard (functionDeclaration inner true)
    else discard inner.assignment
  else
    let token ← lookahead
    if token.isNamed "from" then failBehind (.unexpectedToken token.value)
    if token.isSign ["\x7b"] then discard (objectLiteral inner)
    else if token.isSign ["["] then discard (arrayLiteral inner)
    else discard inner.assignment
    endStatement

/-- Read names that are exported in braces, and tell whether `default` is among them. -/
def exportedNames : Parse Bool := do
  expect "\x7b"
  let hasDefault ← iterate false fun hasDefault => do
    if ← isAtSign ["\x7d"] then return .inr hasDefault
    let isDefault ← isAtKeyword ["default"]
    exportSpecifier
    if !(← isAtSign ["\x7d"]) then expect ","
    return .inl (hasDefault || isDefault)
  expect "\x7d"
  return hasDefault

/-- Read a list of exports, perhaps from another module. The default of this module cannot be
exported once more. -/
def exportList : Parse Unit := do
  let expectsNames ←
    if (← lookahead).kind = .name then do
      discard wordAsName
      if ← isAtSign [","] then
        skipToken
        pure true
      else pure false
    else pure true
  let hasDefault ← if expectsNames then exportedNames else pure false
  if ← isAtName "from" then
    skipToken
    moduleName
    endStatement
  else if hasDefault then failWithoutModule
  else endStatement

/-- Read an export. -/
def moduleExport (item : Parse Unit) : Parse Unit := do
  if (← getContext).inFunction then failBehind .illegalExport
  expectKeyword "export"
  let token ← lookahead
  if token.isKeyword ["default"] then exportDefault inner
  else if token.isSign ["*"] then
    skipToken
    fromModule
    endStatement
  else if token.kind = .keyword then
    if token.isKeyword ["let", "const"] then lexicalDeclaration inner
    else if token.isKeyword ["var", "class", "function"] then item
    else failUnexpected token
  else if ← isAtAsyncFunction then discard (functionDeclaration inner false)
  else exportList

/-- Read an item of a script: a declaration or a statement. -/
def item : Parse Unit := do
  setContext fun context => { context with isAssignable := true, isBinding := true }
  let token ← lookahead
  if token.isKeyword ["export"] then
    if !(← getContext).isModule then tolerateAbout token .illegalExport
    moduleExport inner inner.item
  else if token.isKeyword ["import"] then
    if ← isAtImportCall then expressionStatement inner
    else
      if !(← getContext).isModule then tolerateAbout token .illegalImport
      moduleImport
  else if token.isKeyword ["const"] then lexicalDeclaration inner
  else if token.isKeyword ["function"] then discard (functionDeclaration inner false)
  else if token.isKeyword ["class"] then classDeclaration inner false
  else if token.isKeyword ["let"] then
    if ← isAtLexicalDeclaration then lexicalDeclaration inner else statement inner
  else statement inner

end ScriptCheck.Modern
