import ScriptCheck.Modern.Expression
import ScriptCheck.Proofs.Strictness.Stepping

/-!
# Phrases in step

If the readers of inner phrases are in step, so are the readers of expressions, functions and
classes: they are made of steps that are.
-/

namespace ScriptCheck.Modern

open ScriptCheck.Grammar

set_option synthInstance.maxSize 20000

/-- Readers of inner phrases that are all in step. -/
class Phrases.AreInStep (inner : Phrases) : Prop where
  assignment : InStep inner.assignment
  unary : InStep inner.unary
  power : InStep inner.power
  member : InStep inner.member
  call : InStep inner.call
  target (kind : BindingKind) : InStep (inner.target kind)
  statement : InStep inner.statement
  item : InStep inner.item

attribute [instance] Phrases.AreInStep.assignment Phrases.AreInStep.unary Phrases.AreInStep.power
  Phrases.AreInStep.member Phrases.AreInStep.call Phrases.AreInStep.target
  Phrases.AreInStep.statement Phrases.AreInStep.item

variable {α : Type} {inner : Phrases} [inner.AreInStep]

instance inStep_expression : InStep (expression inner) := by
  unfold expression
  infer_instance

instance inStep_wordAsName : InStep wordAsName := by
  unfold wordAsName
  infer_instance

instance inStep_boundName {kind : BindingKind} : InStep (boundName kind) := by
  unfold boundName
  infer_instance

instance inStep_propertyKey : InStep (propertyKey inner) := by
  refine inStep_nextToken.andThen fun token => ?_
  split <;> infer_instance

instance inStep_targetWithDefault {kind : BindingKind} : InStep (targetWithDefault inner kind) := by
  unfold targetWithDefault
  infer_instance

instance inStep_restOfArray {kind : BindingKind} : InStep (restOfArray inner kind) := by
  unfold restOfArray
  infer_instance

instance inStep_arrayPattern {kind : BindingKind} : InStep (arrayPattern inner kind) := by
  unfold arrayPattern
  infer_instance

instance inStep_propertyPattern {kind : BindingKind} : InStep (propertyPattern inner kind) := by
  unfold propertyPattern
  infer_instance

instance inStep_restOfObject : InStep (restOfObject inner) := by
  unfold restOfObject
  infer_instance

instance inStep_objectPattern {kind : BindingKind} : InStep (objectPattern inner kind) := by
  unfold objectPattern
  infer_instance

instance inStep_target {kind : BindingKind} : InStep (target inner kind) := by
  unfold target
  infer_instance

instance inStep_problemWith {culprit : Culprit} {complaint : Complaint} :
    InStep (problemWith culprit complaint) := by
  cases culprit with
  | token token => exact inStep_problemAbout
  | phrase => exact inStep_problemBehind

instance inStep_restParameter : InStep (restParameter inner) := by
  unfold restParameter
  infer_instance

instance inStep_parameter {parameters : Parameters} : InStep (parameter inner parameters) := by
  unfold parameter
  infer_instance

instance inStep_formalParameters {named : BoundNames Culprit} :
    InStep (formalParameters inner named) := by
  unfold formalParameters
  infer_instance

instance inStep_directive : InStep (directive inner) := by
  unfold directive
  infer_instance

instance inStep_directives : InStep (directives inner) := by
  refine .loop (fun firstOctal => inStep_lookahead.andThen fun token => .either inferInstance
    (inStep_directive.andThen fun found => ?_)) none
  cases found with
  | none => infer_instance
  | some raw =>
      refine .either (inStep_setContext.andThen fun _ => ?_) inferInstance
      cases firstOctal <;> infer_instance

instance inStep_functionBody : InStep (functionBody inner) := by
  unfold functionBody
  infer_instance

instance inStep_checkParameters {severity : Severity} {parameters : Parameters} :
    InStep (checkParameters severity parameters) := by
  refine inStep_getContext.andThen fun context => .either ?_ inferInstance
  cases parameters.firstRestricted <;> cases parameters.restricted <;> infer_instance

instance inStep_checkedBody {severity : Severity} {parameters : Parameters} {body : Parse Unit}
    [InStep body] : InStep (checkedBody severity parameters body) := by
  unfold checkedBody
  infer_instance

instance inStep_withMeaning {allowAwait allowYield : Bool} {phrase : Parse α} [InStep phrase] :
    InStep (withMeaning allowAwait allowYield phrase) := by
  unfold withMeaning
  infer_instance

instance inStep_methodBody {parameters : Parameters} : InStep (methodBody inner parameters) := by
  unfold methodBody
  infer_instance

instance inStep_method : InStep (method inner) := by
  unfold method
  infer_instance

instance inStep_asyncMethod : InStep (asyncMethod inner) := by
  unfold asyncMethod
  infer_instance

instance inStep_getter : InStep (getter inner) := by
  unfold getter
  infer_instance

instance inStep_setter : InStep (setter inner) := by
  refine inStep_getContext.andThen fun context =>
    @inStep_withMeaning _ _ _ _ (.andThen inferInstance fun parameters => ?_)
  split <;> infer_instance

instance inStep_generatorMethod : InStep (generatorMethod inner) := by
  unfold generatorMethod
  infer_instance

instance inStep_functionName {token : Token} : InStep (functionName token) := by
  unfold functionName
  infer_instance

instance inStep_functionRest {named : BoundNames Culprit} : InStep (functionRest inner named) := by
  unfold functionRest
  infer_instance

instance inStep_functionOpening : InStep functionOpening := by
  unfold functionOpening
  infer_instance

instance inStep_functionDeclaration {nameless : Bool} :
    InStep (functionDeclaration inner nameless) := by
  unfold functionDeclaration
  infer_instance

instance inStep_functionExpression : InStep (functionExpression inner) := by
  unfold functionExpression
  infer_instance

instance inStep_isAtBracket : InStep isAtBracket := by
  unfold isAtBracket
  infer_instance

instance inStep_elementOpening : InStep (elementOpening inner) := by
  unfold elementOpening
  infer_instance

instance inStep_elementMethod {opening : ElementOpening} :
    InStep (elementMethod inner opening) := by
  refine inStep_lookahead.andThen fun following => .either inferInstance
    (.either inferInstance (.either inferInstance ?_))
  cases opening.key <;> infer_instance

instance inStep_classElement {hasConstructor : Bool} :
    InStep (classElement inner hasConstructor) := by
  unfold classElement
  infer_instance

instance inStep_classBody : InStep (classBody inner) := by
  unfold classBody
  infer_instance

instance inStep_classWith {name : Parse Unit} [InStep name] : InStep (classWith inner name) := by
  unfold classWith
  infer_instance

instance inStep_optionalName : InStep optionalName := by
  unfold optionalName
  infer_instance

instance inStep_classDeclaration {nameless : Bool} : InStep (classDeclaration inner nameless) := by
  unfold classDeclaration
  infer_instance

instance inStep_classExpression : InStep (classExpression inner) := by
  unfold classExpression
  infer_instance

instance inStep_spread : InStep (spread inner) := by
  unfold spread
  infer_instance

instance inStep_arrayLiteral : InStep (arrayLiteral inner) := by
  unfold arrayLiteral
  infer_instance

instance inStep_propertyRest {token : Token} {key : Option Node}
    {computed isAsync hasProto : Bool} :
    InStep (propertyRest inner token key computed isAsync hasProto) := by
  cases key <;> exact inferInstanceAs (InStep (_ >>= _))

instance inStep_property {hasProto : Bool} : InStep (property inner hasProto) := by
  unfold property
  infer_instance

instance inStep_objectLiteral : InStep (objectLiteral inner) := by
  unfold objectLiteral
  infer_instance

instance inStep_templateLiteral : InStep (templateLiteral inner) := by
  unfold templateLiteral
  infer_instance

instance inStep_requireArrow : InStep requireArrow := by
  unfold requireArrow
  infer_instance

instance inStep_groupParts {first : Node} : InStep (groupParts inner first) := by
  unfold groupParts
  infer_instance

instance inStep_group : InStep (group inner) := by
  refine inStep_expect.andThen fun _ => inStep_isAtSign.andThen fun _ => .either inferInstance
    (inStep_isAtSign.andThen fun _ => .either inferInstance (inStep_setContext.andThen fun _ =>
      .andThen inferInstance fun first => inStep_isAtSign.andThen fun _ =>
        .chosen inferInstance inferInstance fun ⟨node, done⟩ => ?_))
  infer_instance

instance inStep_isAtAsyncFunction : InStep isAtAsyncFunction := by
  unfold isAtAsyncFunction
  infer_instance

instance inStep_isAtImportCall : InStep isAtImportCall := by
  unfold isAtImportCall
  infer_instance

instance inStep_literal : InStep literal := by
  unfold literal
  infer_instance

instance inStep_keywordExpression : InStep (keywordExpression inner) := by
  unfold keywordExpression
  infer_instance

instance inStep_primary : InStep (primary inner) := by
  refine inStep_lookahead.andThen fun token => ?_
  split <;> infer_instance

instance inStep_argumentsBy {argument : Parse Node} [InStep argument] :
    InStep (argumentsBy inner argument) := by
  unfold argumentsBy
  infer_instance

instance inStep_arguments : InStep (arguments inner) := by
  unfold arguments
  infer_instance

instance inStep_asyncArguments : InStep (asyncArguments inner) := by
  unfold asyncArguments
  infer_instance

instance inStep_newExpression : InStep (newExpression inner) := by
  unfold newExpression
  infer_instance

instance inStep_memberBase : InStep (memberBase inner) := by
  unfold memberBase
  infer_instance

instance inStep_dottedMember : InStep dottedMember := by
  unfold dottedMember
  infer_instance

instance inStep_bracketedMember : InStep (bracketedMember inner) := by
  unfold bracketedMember
  infer_instance

instance inStep_isAtTemplate : InStep isAtTemplate := by
  unfold isAtTemplate
  infer_instance

instance inStep_isAtSuper : InStep isAtSuper := by
  unfold isAtSuper
  infer_instance

instance inStep_superBefore {signs : List String} : InStep (superBefore signs) := by
  unfold superBefore
  infer_instance

instance inStep_callOf {callee : Node} {maybeAsync : Bool} :
    InStep (callOf inner callee maybeAsync) := by
  unfold callOf
  cases callee <;> infer_instance

instance inStep_callExpression : InStep (callExpression inner) := by
  unfold callExpression
  infer_instance

instance inStep_memberExpression : InStep (memberExpression inner) := by
  unfold memberExpression
  infer_instance

instance inStep_checkOperand {node : Node} {complaint : Complaint} :
    InStep (checkOperand node complaint) := by
  unfold checkOperand
  cases node <;> infer_instance

instance inStep_update : InStep (update inner) := by
  unfold update
  infer_instance

instance inStep_unary : InStep (unary inner) := by
  unfold unary
  infer_instance

instance inStep_power : InStep (power inner) := by
  refine InStep.andThen inferInstance fun node => ?_
  cases node <;> infer_instance

instance inStep_isAtBinary : InStep isAtBinary := by
  unfold isAtBinary
  infer_instance

instance inStep_binary : InStep (binary inner) := by
  unfold binary
  infer_instance

instance inStep_conditional : InStep (conditional inner) := by
  unfold conditional
  infer_instance

instance inStep_yieldExpression : InStep (yieldExpression inner) := by
  unfold yieldExpression
  infer_instance

instance inStep_arrowParameter {async : Bool} {parameters : Parameters} {node : Node} :
    InStep (arrowParameter async parameters node) := by
  unfold arrowParameter
  split <;> infer_instance

instance inStep_arrowParameters {async : Bool} {parameters : Parameters} {nodes : List Node} :
    InStep (arrowParameters async parameters nodes) := by
  induction nodes generalizing parameters with
  | nil => exact .pure _
  | cons node nodes inductionHypothesis =>
      exact inStep_arrowParameter.andThen fun _ => inductionHypothesis

instance inStep_parametersOf {node : Node} : InStep (parametersOf? node) := by
  unfold parametersOf?
  cases node <;> infer_instance

instance inStep_arrowBody {parameters : Parameters} {async : Bool} :
    InStep (arrowBody inner parameters async) := by
  unfold arrowBody
  infer_instance

instance inStep_assignmentTo {target : Node} {start : Token} :
    InStep (assignmentTo inner target start) := by
  unfold assignmentTo
  cases target <;> infer_instance

instance inStep_arrowFunction {node : Node} {async : Bool} :
    InStep (assignment.arrowFunction inner node async) := by
  refine inStep_spoil.andThen fun _ => inStep_parametersOf.andThen fun parameters => ?_
  cases parameters <;> infer_instance

instance inStep_assignment : InStep (assignment inner) := by
  refine inStep_getContext.andThen fun _ => inStep_isAtKeyword.andThen fun _ =>
    .either inferInstance (inStep_lookahead.andThen fun start =>
      inStep_conditional.andThen fun first => inStep_lookahead.andThen fun next => .either
        (inStep_primary.andThen fun _ => .andThen inferInstance fun node => ?_)
        (.andThen inferInstance fun node => ?_))
  all_goals cases node <;> infer_instance

end ScriptCheck.Modern
