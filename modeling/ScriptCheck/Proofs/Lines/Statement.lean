import ScriptCheck.Classic.Program
import ScriptCheck.Proofs.Lines.Expression

/-!
# Lines in statements and programs

Statements are made of readers that keep states settled, so a whole run does: it ends in a settled
state or fails with what names its line (`ends_program`).
-/

namespace ScriptCheck.Classic

open ScriptCheck.Grammar

-- Readers are searched through as a whole, with all of their branches.
set_option synthInstance.maxSize 20000

variable {text : List Char} {α : Type} {state : State} {inner : Phrases}

section

variable [KeepsPhrases text inner]

instance keeps_head : Keeps text (head inner) := by
  unfold head
  infer_instance

instance keeps_boundName : Keeps text boundName := gives_boundName.keeps

instance keeps_variableName : Keeps text variableName := by
  unfold variableName
  infer_instance

instance keeps_value : Keeps text (value inner) := by
  unfold value
  infer_instance

instance keeps_variableEntry : Keeps text (variableEntry inner) := by
  unfold variableEntry
  infer_instance

instance keeps_constantEntry : Keeps text (constantEntry inner) := by
  unfold constantEntry
  infer_instance

instance keeps_declarator {word : String} : Keeps text (declarator inner word) := by
  unfold declarator
  infer_instance

instance keeps_declarators {word : String} : Keeps text (declarators inner word) := by
  unfold declarators
  infer_instance

instance keeps_declaration : Keeps text (declaration inner) := by
  unfold declaration
  infer_instance

instance keeps_block : Keeps text (block inner) := by
  unfold block
  infer_instance

instance keeps_loopBody {body : Parse Unit} [Keeps text body] : Keeps text (loopBody body) := by
  unfold loopBody
  infer_instance

instance keeps_ifStatement : Keeps text (ifStatement inner) := by
  unfold ifStatement
  infer_instance

instance keeps_doStatement : Keeps text (doStatement inner) := by
  unfold doStatement
  infer_instance

instance keeps_whileStatement : Keeps text (whileStatement inner) := by
  unfold whileStatement
  infer_instance

instance keeps_withoutIn {phrase : Parse α} [Keeps text phrase] :
    Keeps text (withoutIn phrase) := by
  unfold withoutIn
  infer_instance

instance keeps_loopObject : Keeps text (loopObject inner) := by
  unfold loopObject
  infer_instance

instance keeps_forDeclaration : Keeps text (forDeclaration inner) := by
  unfold forDeclaration
  infer_instance

instance keeps_forExpression : Keeps text (forExpression inner) := by
  unfold forExpression
  infer_instance

instance keeps_forStatement : Keeps text (forStatement inner) := by
  have rest (overSomething : Bool) : Keeps text (do
      if !overSomething then
        if !(← isAtSign [";"]) then Functor.discard (expression inner)
        expect ";"
        if !(← isAtSign [")"]) then Functor.discard (expression inner)
      expect ")"
      loopBody (isolated inner.statement)) := inferInstance
  refine keeps_skipToken.andThen fun _ => keeps_expect.andThen fun _ => keeps_isAtSign.andThen
    fun _ => keeps_isAtKeyword.andThen fun _ => .either (fun _ => ?_) fun _ => .either
      (fun _ => keeps_forDeclaration.andThen rest) fun _ => keeps_forExpression.andThen rest
  exact keeps_skipToken.andThen fun _ => Keeps.pure.andThen rest

instance keeps_leaving : Keeps text leaving := by
  unfold leaving
  infer_instance

instance keeps_continueStatement : Keeps text continueStatement := by
  unfold continueStatement
  infer_instance

instance keeps_breakStatement : Keeps text breakStatement := by
  unfold breakStatement
  infer_instance

instance keeps_returnStatement : Keeps text (returnStatement inner) := by
  unfold returnStatement
  infer_instance

instance keeps_withStatement : Keeps text (withStatement inner) := by
  unfold withStatement
  infer_instance

instance keeps_switchClause : Keeps text (switchClause inner) := by
  unfold switchClause
  infer_instance

instance keeps_switchStatement : Keeps text (switchStatement inner) := by
  unfold switchStatement
  infer_instance

instance keeps_labelledStatement : Keeps text (labelledStatement inner) := by
  refine keeps_expression.andThen fun node => ?_
  cases node.shape <;> infer_instance

instance keeps_throwStatement : Keeps text (throwStatement inner) := by
  unfold throwStatement
  infer_instance

instance keeps_catchClause : Keeps text (catchClause inner) := by
  have rest : Keeps text (do
      let token ← boundName
      if (← getContext).strict ∧ isRestricted token.value then failBehind .strictCatchVariable
      expect ")"
      block inner) := inferInstance
  exact keeps_skipToken.andThen fun _ => keeps_expect.andThen fun _ => keeps_isAtSign.andThen
    fun _ => .either (fun _ => gives_lookahead.andThen fun _ _ =>
      keeps_failUnexpected.andThen fun _ => rest) fun _ => rest

instance keeps_tryStatement : Keeps text (tryStatement inner) := by
  unfold tryStatement
  infer_instance

instance keeps_expressionStatement : Keeps text (expressionStatement inner) := by
  unfold expressionStatement
  infer_instance

instance keeps_keywordStatement {word : String} : Keeps text (keywordStatement inner word) := by
  unfold keywordStatement
  infer_instance

instance keeps_statement : Keeps text (statement inner) := by
  refine gives_lookahead.andThen fun token _ => .optional (fun _ => inferInstance)
    (.either (fun _ => inferInstance) fun _ => .andThen inferInstance fun _ => ?_)
  cases token.kind <;> infer_instance

instance keeps_item : Keeps text (item inner) := by
  unfold item
  infer_instance

end

/-- All levels of nesting keep states settled. -/
instance keeps_phrases (depth : Nat) : KeepsPhrases text (phrases depth) := by
  induction depth with
  | zero => exact ⟨.throwTooDeep, .throwTooDeep, .throwTooDeep, .throwTooDeep, .throwTooDeep⟩
  | succ depth inductionHypothesis =>
      exact ⟨keeps_assignment, keeps_unary, keeps_callee, keeps_statement, keeps_item⟩

/-- Nothing is wrong with the places of a state before the first token. -/
theorem initial_tracks {limits : Limits} {source : List Char}
    (feeds : ∀ character ∈ source, isLineEnd character = true → character = '\n') :
    (State.initial limits source).Tracks (source ++ State.suffix) where
  feeds character isPart isEnd := by
    rcases List.mem_append.1 isPart with inSource | inSuffix
    · exact feeds character inSource isEnd
    · have ends : ∀ character ∈ State.suffix, isLineEnd character = true → character = '\n' := by
        decide
      exact ends character inSuffix isEnd
  source := rfl
  cursor := (lineOf_zero _).symm
  lastPlace := (lineOf_zero _).symm
  startPlace := (lineOf_zero _).symm
  context := fun _ found => nomatch found

/-- A whole run keeps to settled states, or fails and names its line. -/
theorem ends_program {limits : Limits} {source : List Char}
    (feeds : ∀ character ∈ source, isLineEnd character = true → character = '\n') :
    Ends (source ++ State.suffix) (fun _ after => after.Settled (source ++ State.suffix))
      (program limits (.initial limits source)) := by
  refine (ends_readFirst (initial_tracks feeds)).bind fun _ first settled => ?_
  exact Keeps.ends first settled

end ScriptCheck.Classic
