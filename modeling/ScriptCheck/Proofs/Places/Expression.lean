import ScriptCheck.Modern.Expression
import ScriptCheck.Proofs.Places.Primary

/-!
# Places while expressions are read
-/

namespace ScriptCheck.Modern

open ScriptCheck.Grammar

variable {text : Array Char} {inner : Phrases} (keep : inner.Keep text)

@[grind norm] theorem Meets.isAtSuper_bind {β : Type} {state : State} {next : Bool → Parse β}
    {goal : β → State → Prop} :
    Meets text (isAtSuper >>= next) state goal ↔
      Meets text (next (state.lookahead.isKeyword ["super"] && state.context.inFunction)) state
        goal :=
  Meets.bind_of_eq rfl

@[grind norm] theorem Meets.isAtTemplate_bind {β : Type} {state : State} {next : Bool → Parse β}
    {goal : β → State → Prop} :
    Meets text (isAtTemplate >>= next) state goal ↔
      Meets text (next (state.lookahead.kind == .template && state.lookahead.opens)) state goal :=
  Meets.bind_of_eq rfl

include keep

@[grind ←] theorem keeps_argumentsBy {argument : Parse Node} (keeps : Keeps text argument) :
    Keeps text (argumentsBy inner argument) := by
  intro state sound settled
  unfold argumentsBy
  refine Meets.keeps_bind (keeps_expect "(") sound settled fun _ state sound settled _ =>
    Meets.iterate_kept_bind sound settled (placed_list _) ?_ ?_
  · intro nodes state sound settled _
    refine Meets.isAtSign_bind.2 ?_
    dsimp only
    split
    · grind
    · refine Meets.isAtSign_bind.2 ?_
      split <;> grind
  · grind

@[grind ←] theorem keeps_arguments : Keeps text (arguments inner) :=
  keeps_argumentsBy keep keep.assignment

@[grind ←] theorem keeps_asyncArguments : Keeps text (asyncArguments inner) := by
  refine keeps_argumentsBy keep fun state sound settled => ?_
  grind

@[grind ←] theorem keeps_newExpression : Keeps text (newExpression inner) := by
  intro state sound settled
  unfold newExpression
  grind

@[grind ←] theorem keeps_memberBase : Keeps text (memberBase inner) := by
  intro state sound settled
  unfold memberBase
  grind

omit keep

@[grind .] theorem keeps_dottedMember : Keeps text dottedMember := by
  intro state sound settled
  unfold dottedMember
  grind

include keep

@[grind ←] theorem keeps_bracketedMember : Keeps text (bracketedMember inner) := by
  intro state sound settled
  unfold bracketedMember
  grind

omit keep

@[grind .] theorem keeps_superBefore (signs : List String) : Keeps text (superBefore signs) := by
  intro state sound settled
  unfold superBefore
  grind

include keep

@[grind ←] theorem keeps_callOf (callee : Node) (maybeAsync : Bool) :
    Keeps text (callOf inner callee maybeAsync) := by
  intro state sound settled
  unfold callOf
  refine Meets.keeps_bind keeps_spoil sound settled fun _ state sound settled _ => ?_
  split <;> grind

@[grind ←] theorem keeps_callExpression : Keeps text (callExpression inner) := by
  intro state sound settled
  unfold callExpression
  grind

@[grind ←] theorem keeps_memberExpression : Keeps text (memberExpression inner) := by
  intro state sound settled
  unfold memberExpression
  grind

omit keep

@[grind .] theorem keeps_checkOperand (node : Node) (complaint : Complaint) :
    Keeps text (checkOperand node complaint) := by
  intro state sound settled
  unfold checkOperand
  grind

include keep

@[grind ←] theorem keeps_update : Keeps text (update inner) := by
  intro state sound settled
  unfold update
  grind

@[grind ←] theorem keeps_unary : Keeps text (unary inner) := by
  intro state sound settled
  unfold unary
  grind

@[grind ←] theorem keeps_power : Keeps text (power inner) := by
  intro state sound settled
  unfold power
  refine Meets.keeps_bind (keeps_inherited (keeps_unary keep)) sound settled
    fun node state sound settled _ => ?_
  split <;> grind

omit keep

@[grind .] theorem keeps_isAtBinary : Keeps text isAtBinary := by
  intro state sound settled
  unfold isAtBinary
  grind

include keep

@[grind ←] theorem keeps_binary : Keeps text (binary inner) := by
  intro state sound settled
  unfold binary
  have operands : Keeps text (iterate () fun _ => do
      if !(← isAtBinary) then return .inr .other
      skipToken
      discard (isolated (power inner))
      return .inl () : Parse Node) := by
    refine .iterate trivial fun _ _ state sound settled => ?_
    grind
  refine Meets.keeps_bind (keeps_inherited (keeps_power keep)) sound settled
    fun first state sound settled _ => ?_
  grind

@[grind ←] theorem keeps_conditional : Keeps text (conditional inner) := by
  intro state sound settled
  unfold conditional
  refine Meets.keeps_bind (keeps_inherited (keeps_binary keep)) sound settled
    fun node state sound settled _ => Meets.isAtSign_bind.2 ?_
  split
  · grind
  · refine Meets.keeps_bind keeps_skipToken sound settled fun _ state sound settled _ =>
      Meets.getContext_bind.2 (Meets.setContext_bind.2 (Meets.keeps_bind
        (keeps_discard (keeps_isolated keep.assignment)) ?_ settled
          fun _ state sound settled _ => ?_))
    · grind
    · grind

@[grind ←] theorem keeps_yieldExpression : Keeps text (yieldExpression inner) := by
  intro state sound settled
  unfold yieldExpression
  grind

omit keep

@[grind ←] theorem keeps_arrowParameter (async : Bool) {parameters : Parameters}
    (placed : Placed text parameters) (node : Node) :
    Keeps text (arrowParameter async parameters node) := by
  intro state sound settled
  unfold arrowParameter
  have tail : Keeps text (do
      let strict := (← getContext).strict
      let named := node.boundNames.foldl (fun parameters name =>
        parameters.addName strict .phrase name) parameters
      return named.addNode node) := fun state sound settled =>
    Meets.getContext_bind.2 ⟨sound, settled,
      placed_addNode (placed_addNames (fun _ _ => placed_phrase) _ _ placed) node⟩
  split
  · grind
  · split
    · grind
    · exact tail state sound settled
  · exact tail state sound settled

@[grind ←] theorem keeps_arrowParameters (async : Bool) {parameters : Parameters}
    (placed : Placed text parameters) (nodes : List Node) :
    Keeps text (arrowParameters async parameters nodes) := by
  induction nodes generalizing parameters with
  | nil => exact .pure placed
  | cons node nodes inductionHypothesis =>
      exact (keeps_arrowParameter async placed node).bind fun _ placed =>
        inductionHypothesis placed

@[grind .] theorem keeps_parametersOf (node : Node) : Keeps text (parametersOf? node) := by
  intro state sound settled
  unfold parametersOf?
  have start : Placed text ({} : Parameters) := placed_noNames
  split
  · grind
  · grind
  · grind

include keep

@[grind ←] theorem keeps_arrowBody {parameters : Parameters} (placed : Placed text parameters)
    (async : Bool) : Keeps text (arrowBody inner parameters async) := by
  intro state sound settled
  unfold arrowBody
  have body : Keeps text (do
      expect "=>"
      if ← isAtSign ["\x7b"] then
        let outer ← getContext
        setContext fun context => { context with allowIn := true }
        functionBody inner
        setContext fun context => { context with allowIn := outer.allowIn }
      else discard (isolated inner.assignment)) := by
    intro state sound settled
    grind
  grind

@[grind ←] theorem keeps_assignmentTo {start : Token} (placed : Placed text start)
    (target : Node) : Keeps text (assignmentTo inner target start) := by
  intro state sound settled
  unfold assignmentTo
  have checked : ∀ (context : Context) (spelling : Name) {next : Parse Node}, Keeps text next →
      Keeps text (do
        if context.strict ∧ isRestricted spelling.text then tolerateAbout start .strictAssignment
        if context.strict ∧ isStrictReserved spelling.text then
          tolerateAbout start .strictReservedWord
        next) := by
    intro context spelling next keeps state sound settled
    grind
  have assigned : Keeps text (do
      let isPlain ← isAtSign ["="]
      if !isPlain then spoil
      skipToken
      let value ← isolated inner.assignment
      setContext fun context => { context with coverDefault := none }
      return Node.assignment (if isPlain then target.asPattern else target) value) := by
    intro state sound settled
    grind
  refine Meets.getContext_bind.2 ?_
  dsimp only
  split
  · refine Meets.keeps_bind (keeps_tolerateBehind _) sound settled fun _ after sound settled _ => ?_
    split
    · exact checked _ _ assigned after sound settled
    · exact assigned after sound settled
  · split
    · exact checked _ _ assigned state sound settled
    · exact assigned state sound settled

@[grind ←] theorem keeps_arrowFunction (node : Node) (async : Bool) :
    Keeps text (assignment.arrowFunction inner node async) := by
  intro state sound settled
  unfold assignment.arrowFunction
  grind

@[grind ←] theorem keeps_assignment : Keeps text (assignment inner) := by
  intro state sound settled
  unfold assignment
  have rest : ∀ {start : Token} (node : Node), Placed text start → Keeps text (do
      if ← isAtSign ["=>"] then assignment.arrowFunction inner node false
      else if ← isAtSign assignmentSigns then assignmentTo inner node start
      else return node) := by
    intro start node placed state sound settled
    grind
  refine Meets.getContext_bind.2 (Meets.isAtKeyword_bind.2 ?_)
  dsimp only
  split
  · grind
  · refine Meets.lookahead_bind.2 (Meets.keeps_bind (keeps_conditional keep) sound settled
      fun first after afterSound settled _ => Meets.lookahead_bind.2 ?_)
    split
    · refine Meets.keeps_bind (keeps_primary keep) afterSound settled
        fun parameter last lastSound settled _ => Meets.return_bind.2 ?_
      exact keeps_arrowFunction keep _ _ last lastSound settled
    · refine Meets.return_bind.2 ?_
      split
      · exact keeps_arrowFunction keep _ _ after afterSound settled
      · exact rest first sound.lookahead after afterSound settled

end ScriptCheck.Modern
