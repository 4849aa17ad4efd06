import ScriptCheck.Modern.ModuleItem
import ScriptCheck.Proofs.Strictness.Expression

/-!
# Statements in step

Likewise for statements and for the items of scripts and modules.
-/

namespace ScriptCheck.Modern

open ScriptCheck.Grammar

set_option synthInstance.maxSize 20000

variable {α : Type} {inner : Phrases} [inner.AreInStep]

instance inStep_checkVariable {node : Node} {complaint : Complaint} :
    InStep (checkVariable node complaint) := by
  cases node with
  | name spelling => exact inStep_getContext.andThen fun _ => inferInstance
  | _ => exact .pure ()

instance inStep_value : InStep (value inner) := by
  unfold value
  infer_instance

instance inStep_variableDeclarator {inFor : Bool} : InStep (variableDeclarator inner inFor) := by
  unfold variableDeclarator
  infer_instance

instance inStep_lexicalDeclarator {kind : BindingKind} {inFor : Bool} :
    InStep (lexicalDeclarator inner kind inFor) := by
  unfold lexicalDeclarator
  infer_instance

instance inStep_declarators {declarator : Parse Declarator} [InStep declarator] :
    InStep (declarators declarator) := by
  unfold declarators
  infer_instance

instance inStep_lexicalDeclaration : InStep (lexicalDeclaration inner) := by
  unfold lexicalDeclaration
  infer_instance

instance inStep_isAtLexicalDeclaration : InStep isAtLexicalDeclaration := by
  unfold isAtLexicalDeclaration
  infer_instance

instance inStep_variableStatement : InStep (variableStatement inner) := by
  unfold variableStatement
  infer_instance

instance inStep_block : InStep (block inner) := by
  unfold block
  infer_instance

instance inStep_expressionStatement : InStep (expressionStatement inner) := by
  unfold expressionStatement
  infer_instance

instance inStep_closeHead {body : Parse Unit} [InStep body] : InStep (closeHead body) := by
  unfold closeHead
  infer_instance

instance inStep_headed {body : Parse Unit} [InStep body] : InStep (headed inner body) := by
  unfold headed
  infer_instance

instance inStep_loopBody {body : Parse Unit} [InStep body] : InStep (loopBody body) := by
  unfold loopBody
  infer_instance

instance inStep_branch : InStep (branch inner) := by
  unfold branch
  infer_instance

instance inStep_ifStatement : InStep (ifStatement inner) := by
  unfold ifStatement
  infer_instance

instance inStep_doStatement : InStep (doStatement inner) := by
  unfold doStatement
  infer_instance

instance inStep_whileStatement : InStep (whileStatement inner) := by
  unfold whileStatement
  infer_instance

instance inStep_withoutIn {phrase : Parse α} [InStep phrase] : InStep (withoutIn phrase) := by
  unfold withoutIn
  infer_instance

instance inStep_loopObject : InStep (loopObject inner) := by
  unfold loopObject
  infer_instance

instance inStep_loopElements : InStep (loopElements inner) := by
  unfold loopElements
  infer_instance

instance inStep_forVariable : InStep (forVariable inner) := by
  refine inStep_skipToken.andThen fun _ => .andThen inferInstance fun all => ?_
  split <;> infer_instance

instance inStep_forLexical : InStep (forLexical inner) := by
  refine inStep_nextToken.andThen fun _ => inStep_getContext.andThen fun _ =>
    inStep_lookahead.andThen fun _ => .either inferInstance (.andThen inferInstance fun all => ?_)
  split <;> infer_instance

instance inStep_checkLoopTarget {node : Node} {complaint : Complaint} :
    InStep (checkLoopTarget node complaint) := by
  unfold checkLoopTarget
  infer_instance

instance inStep_forExpression : InStep (forExpression inner) := by
  unfold forExpression
  infer_instance

instance inStep_forRest : InStep (forRest inner) := by
  unfold forRest
  infer_instance

instance inStep_forStatement : InStep (forStatement inner) := by
  unfold forStatement
  infer_instance

instance inStep_optionalLabel : InStep optionalLabel := by
  refine inStep_lookahead.andThen fun _ => inStep_lineEnded.andThen fun _ => .either inferInstance
    (inStep_boundName.andThen fun node => ?_)
  cases node <;> infer_instance

instance inStep_continueStatement : InStep continueStatement := by
  unfold continueStatement
  infer_instance

instance inStep_breakStatement : InStep breakStatement := by
  unfold breakStatement
  infer_instance

instance inStep_returnStatement : InStep (returnStatement inner) := by
  unfold returnStatement
  infer_instance

instance inStep_withStatement : InStep (withStatement inner) := by
  unfold withStatement
  infer_instance

instance inStep_switchClause : InStep (switchClause inner) := by
  unfold switchClause
  infer_instance

instance inStep_switchStatement : InStep (switchStatement inner) := by
  unfold switchStatement
  infer_instance

instance inStep_labelledBody : InStep (labelledBody inner) := by
  unfold labelledBody
  infer_instance

instance inStep_labelledStatement : InStep (labelledStatement inner) := by
  refine inStep_expression.andThen fun node => ?_
  cases node <;> infer_instance

instance inStep_throwStatement : InStep (throwStatement inner) := by
  unfold throwStatement
  infer_instance

instance inStep_checkDistinct {names : List Name} {tokens : List Token} :
    InStep (checkDistinct names tokens) := by
  induction tokens generalizing names with
  | nil => exact .pure ()
  | cons token tokens inductionHypothesis =>
      unfold checkDistinct
      infer_instance

instance inStep_catchClause : InStep (catchClause inner) := by
  unfold catchClause
  infer_instance

instance inStep_tryStatement : InStep (tryStatement inner) := by
  unfold tryStatement
  infer_instance

instance inStep_keywordStatement {word : String} : InStep (keywordStatement inner word) := by
  unfold keywordStatement
  infer_instance

instance inStep_statement : InStep (statement inner) := by
  refine inStep_lookahead.andThen fun token => ?_
  split <;> infer_instance

instance inStep_moduleName : InStep moduleName := by
  unfold moduleName
  infer_instance

instance inStep_failWithoutModule : InStep (failWithoutModule : Parse α) := by
  unfold failWithoutModule
  infer_instance

instance inStep_fromModule : InStep fromModule := by
  unfold fromModule
  infer_instance

instance inStep_importSpecifier : InStep importSpecifier := by
  unfold importSpecifier
  infer_instance

instance inStep_bracedSpecifiers {specifier : Parse Unit} [InStep specifier] :
    InStep (bracedSpecifiers specifier) := by
  unfold bracedSpecifiers
  infer_instance

instance inStep_namespaceSpecifier : InStep namespaceSpecifier := by
  unfold namespaceSpecifier
  infer_instance

instance inStep_moduleClause : InStep moduleClause := by
  unfold moduleClause
  infer_instance

instance inStep_moduleImport : InStep moduleImport := by
  unfold moduleImport
  infer_instance

instance inStep_exportSpecifier : InStep exportSpecifier := by
  unfold exportSpecifier
  infer_instance

instance inStep_exportDefault : InStep (exportDefault inner) := by
  unfold exportDefault
  infer_instance

instance inStep_exportedNames : InStep exportedNames := by
  unfold exportedNames
  infer_instance

instance inStep_exportList : InStep exportList := by
  unfold exportList
  infer_instance

instance inStep_moduleExport {item : Parse Unit} [InStep item] :
    InStep (moduleExport inner item) := by
  unfold moduleExport
  infer_instance

instance inStep_item : InStep (item inner) := by
  unfold item
  infer_instance

end ScriptCheck.Modern
