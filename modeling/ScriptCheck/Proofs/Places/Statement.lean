import ScriptCheck.Modern.Statement
import ScriptCheck.Proofs.Places.Expression

/-!
# Places while statements are read
-/

namespace ScriptCheck.Modern

open ScriptCheck.Grammar

variable {text : Array Char} {inner : Phrases} (keep : inner.Keep text)

instance : Placeless Declarator := ⟨⟩

@[grind .] theorem keeps_checkVariable (node : Node) (complaint : Complaint) :
    Keeps text (checkVariable node complaint) := by
  intro state sound settled
  unfold checkVariable
  split <;> grind

include keep

@[grind ←] theorem keeps_value : Keeps text (value inner) := by
  intro state sound settled
  unfold value
  grind

@[grind ←] theorem keeps_variableDeclarator (inFor : Bool) :
    Keeps text (variableDeclarator inner inFor) := by
  intro state sound settled
  unfold variableDeclarator
  grind

@[grind ←] theorem keeps_lexicalDeclarator (kind : BindingKind) (inFor : Bool) :
    Keeps text (lexicalDeclarator inner kind inFor) := by
  intro state sound settled
  unfold lexicalDeclarator
  grind

omit keep

@[grind ←] theorem keeps_declarators {declarator : Parse Declarator}
    (keeps : Keeps text declarator) :
    Keeps text (declarators declarator) := by
  intro state sound settled
  unfold declarators
  refine Meets.keeps_bind keeps sound settled fun first state sound settled _ =>
    Meets.iterate_kept_bind sound settled (placed_list _) ?_ ?_
  · grind
  · grind

include keep

@[grind ←] theorem keeps_lexicalDeclaration : Keeps text (lexicalDeclaration inner) := by
  intro state sound settled
  unfold lexicalDeclaration
  grind

omit keep

@[grind .] theorem keeps_isAtLexicalDeclaration : Keeps text isAtLexicalDeclaration := by
  intro state sound settled
  unfold isAtLexicalDeclaration
  grind

include keep

@[grind ←] theorem keeps_variableStatement : Keeps text (variableStatement inner) := by
  intro state sound settled
  unfold variableStatement
  grind

@[grind ←] theorem keeps_block : Keeps text (block inner) := by
  intro state sound settled
  unfold block
  grind

@[grind ←] theorem keeps_expressionStatement : Keeps text (expressionStatement inner) := by
  intro state sound settled
  unfold expressionStatement
  grind

omit keep

@[grind ←] theorem keeps_closeHead {body : Parse Unit} (keeps : Keeps text body) :
    Keeps text (closeHead body) := by
  intro state sound settled
  unfold closeHead
  grind

include keep

@[grind ←] theorem keeps_headed {body : Parse Unit} (keeps : Keeps text body) :
    Keeps text (headed inner body) := by
  intro state sound settled
  unfold headed
  grind

omit keep

@[grind ←] theorem keeps_loopBody {body : Parse Unit} (keeps : Keeps text body) :
    Keeps text (loopBody body) := by
  intro state sound settled
  unfold loopBody
  grind

include keep

@[grind ←] theorem keeps_branch : Keeps text (branch inner) := by
  intro state sound settled
  unfold branch
  grind

@[grind ←] theorem keeps_ifStatement : Keeps text (ifStatement inner) := by
  intro state sound settled
  unfold ifStatement
  have body : Keeps text (do
      branch inner
      if ← isAtKeyword ["else"] then
        skipToken
        branch inner) := by
    intro state sound settled
    grind
  grind

@[grind ←] theorem keeps_doStatement : Keeps text (doStatement inner) := by
  intro state sound settled
  unfold doStatement
  have ending : Keeps text (do
      if ← isAtSign [";"] then skipToken) := by
    intro state sound settled
    grind
  grind

@[grind ←] theorem keeps_whileStatement : Keeps text (whileStatement inner) := by
  intro state sound settled
  unfold whileStatement
  grind

omit keep

@[grind ←] theorem keeps_withoutIn {α : Type} [Placeable α] {phrase : Parse α}
    (keeps : Keeps text phrase) :
    Keeps text (withoutIn phrase) := by
  intro state sound settled
  unfold withoutIn
  grind

include keep

@[grind ←] theorem keeps_loopObject : Keeps text (loopObject inner) := by
  intro state sound settled
  unfold loopObject
  grind

@[grind ←] theorem keeps_loopElements : Keeps text (loopElements inner) := by
  intro state sound settled
  unfold loopElements
  grind

@[grind ←] theorem keeps_forVariable : Keeps text (forVariable inner) := by
  intro state sound settled
  unfold forVariable
  refine Meets.keeps_bind keeps_skipToken sound settled fun _ state sound settled _ =>
    Meets.keeps_bind (keeps_withoutIn (keeps_declarators (keeps_variableDeclarator keep true)))
      sound settled fun all state sound settled _ => ?_
  split <;> grind

@[grind ←] theorem keeps_forLexical : Keeps text (forLexical inner) := by
  intro state sound settled
  unfold forLexical
  refine Meets.keeps_bind keeps_nextToken sound settled fun word state sound settled _ =>
    Meets.getContext_bind.2 (Meets.lookahead_bind.2 ?_)
  dsimp only
  split
  · grind
  · refine Meets.keeps_bind
      (keeps_withoutIn (keeps_declarators (keeps_lexicalDeclarator keep _ true)))
      sound settled fun all state sound settled _ => ?_
    split <;> grind

omit keep

@[grind .] theorem keeps_checkLoopTarget (node : Node) (complaint : Complaint) :
    Keeps text (checkLoopTarget node complaint) := by
  intro state sound settled
  unfold checkLoopTarget
  grind

include keep

@[grind ←] theorem keeps_forExpression : Keeps text (forExpression inner) := by
  intro state sound settled
  unfold forExpression
  grind

@[grind ←] theorem keeps_forRest : Keeps text (forRest inner) := by
  intro state sound settled
  unfold forRest
  grind

@[grind ←] theorem keeps_forStatement : Keeps text (forStatement inner) := by
  intro state sound settled
  unfold forStatement
  have tail : ∀ overSomething : Bool, Keeps text (do
      if !overSomething then forRest inner
      closeHead (loopBody (isolated inner.statement))) := by
    intro overSomething state sound settled
    grind
  grind

omit keep

@[grind .] theorem keeps_optionalLabel : Keeps text optionalLabel := by
  intro state sound settled
  unfold optionalLabel
  refine Meets.lookahead_bind.2 (Meets.lineEnded_bind.2 ?_)
  dsimp only
  split
  · grind
  · refine Meets.keeps_bind (keeps_boundName .parameter) sound settled
      fun node state sound settled _ => ?_
    split <;> grind

@[grind .] theorem keeps_continueStatement : Keeps text continueStatement := by
  intro state sound settled
  unfold continueStatement
  grind

@[grind .] theorem keeps_breakStatement : Keeps text breakStatement := by
  intro state sound settled
  unfold breakStatement
  grind

include keep

@[grind ←] theorem keeps_returnStatement : Keeps text (returnStatement inner) := by
  intro state sound settled
  unfold returnStatement
  grind

@[grind ←] theorem keeps_withStatement : Keeps text (withStatement inner) := by
  intro state sound settled
  unfold withStatement
  grind

@[grind ←] theorem keeps_switchClause : Keeps text (switchClause inner) := by
  intro state sound settled
  unfold switchClause
  have body : Keeps text (do
      iterate () fun _ => do
        if (← isAtSign ["\x7d"]) ∨ (← isAtKeyword ["default", "case"]) then return .inr ()
        inner.item
        return .inl ()
      : Parse Unit) := by
    refine .iterate trivial fun _ _ state sound settled => ?_
    grind
  grind

@[grind ←] theorem keeps_switchStatement : Keeps text (switchStatement inner) := by
  intro state sound settled
  unfold switchStatement
  have clauses : Keeps text (iterate false fun hasDefault => do
      if ← isAtSign ["\x7d"] then return .inr hasDefault
      let isDefault ← switchClause inner
      if isDefault ∧ hasDefault then failBehind .severalDefaults
      return .inl (hasDefault || isDefault)) := by
    refine .iterate trivial fun _ _ state sound settled => ?_
    grind
  refine Meets.keeps_bind (keeps_expectKeyword "switch") sound settled
    fun _ state sound settled _ =>
    Meets.keeps_bind (keeps_expect "(") sound settled fun _ state sound settled _ =>
    Meets.keeps_bind (keeps_discard (keeps_expression keep)) sound settled
      fun _ state sound settled _ => ?_
  grind

@[grind ←] theorem keeps_labelledBody : Keeps text (labelledBody inner) := by
  intro state sound settled
  unfold labelledBody
  grind

@[grind ←] theorem keeps_labelledStatement : Keeps text (labelledStatement inner) := by
  intro state sound settled
  unfold labelledStatement
  refine Meets.keeps_bind (keeps_expression keep) sound settled fun node state sound settled _ => ?_
  split
  · grind
  · grind

@[grind ←] theorem keeps_throwStatement : Keeps text (throwStatement inner) := by
  intro state sound settled
  unfold throwStatement
  grind

omit keep

@[grind .] theorem keeps_checkDistinct (names : List Name) (tokens : List Token) :
    Keeps text (checkDistinct names tokens) := by
  induction tokens generalizing names with
  | nil => exact .pure trivial
  | cons token tokens inductionHypothesis =>
      intro state sound settled
      unfold checkDistinct
      grind

include keep

@[grind ←] theorem keeps_catchClause : Keeps text (catchClause inner) := by
  intro state sound settled
  unfold catchClause
  grind

@[grind ←] theorem keeps_tryStatement : Keeps text (tryStatement inner) := by
  intro state sound settled
  unfold tryStatement
  grind

@[grind ←] theorem keeps_keywordStatement (word : String) :
    Keeps text (keywordStatement inner word) :=
  .ite keeps_breakStatement <|
  .ite keeps_continueStatement <|
  .ite (keeps_skipToken.bind fun _ _ => keeps_endStatement) <|
  .ite (keeps_doStatement keep) <|
  .ite (keeps_forStatement keep) <|
  .ite (keeps_discard (keeps_functionDeclaration keep false)) <|
  .ite (keeps_ifStatement keep) <|
  .ite (keeps_returnStatement keep) <|
  .ite (keeps_switchStatement keep) <|
  .ite (keeps_throwStatement keep) <|
  .ite (keeps_tryStatement keep) <|
  .ite (keeps_variableStatement keep) <|
  .ite (keeps_whileStatement keep) <|
  .ite (keeps_withStatement keep) <|
  keeps_expressionStatement keep

@[grind ←] theorem keeps_statement : Keeps text (statement inner) := by
  intro state sound settled
  unfold statement
  grind

end ScriptCheck.Modern
