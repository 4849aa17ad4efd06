import ScriptCheck.Modern.Function
import ScriptCheck.Proofs.Places.Binding

/-!
# Places while functions are read
-/

namespace ScriptCheck.Modern

open ScriptCheck.Grammar

variable {text : Array Char} {inner : Phrases} (keep : inner.Keep text)

/-- A culprit leads to complaints about itself, if it is a token. -/
instance : Placeable Culprit where
  Placed text
    | .token token => Placed text token
    | .phrase => True

instance : Placeable (BoundNames Culprit) where
  Placed text bound := Placed text bound.firstRestricted ∧ Placed text bound.restricted

instance : Placeable Parameters where
  Placed text parameters := Placed text parameters.toBoundNames

@[grind =] theorem placed_culprit (token : Token) :
    Placed text (Culprit.token token) ↔ Placed text token := .rfl

@[grind .] theorem placed_phrase : Placed text Culprit.phrase := trivial

@[grind =] theorem placed_boundNames (bound : BoundNames Culprit) :
    Placed text bound ↔ Placed text bound.firstRestricted ∧ Placed text bound.restricted := .rfl

@[grind =] theorem placed_parameters (parameters : Parameters) :
    Placed text parameters ↔ Placed text parameters.toBoundNames := .rfl

@[grind .] theorem placed_noNames : Placed text ({} : BoundNames Culprit) :=
  ⟨placed_none.2 trivial, placed_none.2 trivial⟩

/-- One more name leads to complaints about its culprit at most. -/
theorem placed_add {bound : BoundNames Culprit} (placed : Placed text bound) {culprit : Culprit}
    (culpritPlaced : Placed text culprit) (strict : Bool) (name : Name) :
    Placed text (bound.add strict culprit name) := by
  unfold BoundNames.add
  grind

theorem placed_addName {parameters : Parameters} (placed : Placed text parameters)
    {culprit : Culprit} (culpritPlaced : Placed text culprit) (strict : Bool) (name : Name) :
    Placed text (parameters.addName strict culprit name) :=
  placed_add placed culpritPlaced strict name

@[grind ←] theorem placed_addNode {parameters : Parameters} (placed : Placed text parameters)
    (node : Node) : Placed text (parameters.addNode node) := placed

/-- Names lead to complaints about their culprits at most. -/
theorem placed_addNames {γ : Type} {values : List γ} {culprit : γ → Culprit}
    (culpritsPlaced : ∀ value ∈ values, Placed text (culprit value)) (name : γ → Name)
    (strict : Bool) {parameters : Parameters} (placed : Placed text parameters) :
    Placed text (values.foldl (fun parameters value =>
      parameters.addName strict (culprit value) (name value)) parameters) := by
  induction values generalizing parameters with
  | nil => exact placed
  | cons value values inductionHypothesis =>
      exact inductionHypothesis (fun other listed => culpritsPlaced other (.tail _ listed))
        (placed_addName placed (culpritsPlaced value (.head _)) strict _)

@[grind ←] theorem placed_ofFunction {culprit : Culprit} (placed : Placed text culprit)
    (name : Name) : Placed text (BoundNames.ofFunction culprit name) := by
  unfold BoundNames.ofFunction
  grind

@[grind ←] theorem keeps_problemWith {culprit : Culprit} (placed : Placed text culprit)
    (complaint : Complaint) : Keeps text (problemWith culprit complaint) := by
  cases culprit with
  | token token => exact keeps_problemAbout placed complaint
  | phrase => exact keeps_problemBehind complaint

include keep

@[grind ←] theorem keeps_restParameter : Keeps text (restParameter inner) := by
  intro state sound settled
  unfold restParameter
  grind

@[grind ←] theorem keeps_parameter {parameters : Parameters} (placed : Placed text parameters) :
    Keeps text (parameter inner parameters) := by
  intro state sound settled
  unfold parameter
  refine Meets.isAtSign_bind.2 ?_
  dsimp only
  split
  · refine Meets.keeps_bind (keeps_restParameter keep) sound settled
      fun target state sound settled targetPlaced => ?_
    exact ⟨sound, settled, placed_addNode (placed_addNames targetPlaced _ _ placed) _⟩
  · refine Meets.keeps_bind (keeps_targetWithDefault keep _) sound settled
      fun target state sound settled targetPlaced => ?_
    exact ⟨sound, settled, placed_addNode (placed_addNames targetPlaced _ _ placed) _⟩

@[grind ←] theorem keeps_formalParameters {named : BoundNames Culprit}
    (placed : Placed text named) : Keeps text (formalParameters inner named) := by
  intro state sound settled
  unfold formalParameters
  grind

@[grind ←] theorem keeps_directive : Keeps text (directive inner) := by
  intro state sound settled
  unfold directive
  grind

@[grind ←] theorem keeps_directives : Keeps text (directives inner) := by
  unfold directives
  refine .iterate (placed_none.2 trivial) fun firstOctal octalPlaced state sound settled => ?_
  refine Meets.lookahead_bind.2 ?_
  have tokenPlaced := sound.lookahead
  dsimp only
  split
  · grind
  · refine Meets.keeps_bind (keeps_directive keep) sound settled fun raw state sound settled _ => ?_
    split
    · grind
    · split
      · refine Meets.setContext_bind.2 ?_
        split <;> grind
      · refine ⟨sound, settled, placed_orElse octalPlaced ?_⟩
        grind

@[grind ←] theorem keeps_functionBody : Keeps text (functionBody inner) := by
  intro state sound settled
  unfold functionBody
  grind

omit keep

@[grind ←] theorem keeps_checkParameters (severity : Severity) {parameters : Parameters}
    (placed : Placed text parameters) : Keeps text (checkParameters severity parameters) := by
  intro state sound settled
  unfold checkParameters
  refine Meets.getContext_bind.2 ?_
  dsimp only
  split
  · split
    · split <;> grind
    · split <;> grind
  · grind

@[grind ←] theorem keeps_checkedBody (severity : Severity) {parameters : Parameters}
    (placed : Placed text parameters) {body : Parse Unit} (keeps : Keeps text body) :
    Keeps text (checkedBody severity parameters body) := by
  intro state sound settled
  unfold checkedBody
  grind

@[grind ←] theorem keeps_withMeaning {α : Type} [Placeable α] (allowAwait allowYield : Bool)
    {phrase : Parse α} (keeps : Keeps text phrase) :
    Keeps text (withMeaning allowAwait allowYield phrase) := by
  intro state sound settled
  unfold withMeaning
  grind

include keep

@[grind ←] theorem keeps_methodBody {parameters : Parameters} (placed : Placed text parameters) :
    Keeps text (methodBody inner parameters) := by
  intro state sound settled
  unfold methodBody
  grind

@[grind ←] theorem keeps_method : Keeps text (method inner) := by
  intro state sound settled
  unfold method
  refine Meets.getContext_bind.2 (keeps_withMeaning _ _ ?_ state sound settled)
  exact (keeps_formalParameters keep placed_noNames).bind fun _ placed =>
    keeps_methodBody keep placed

@[grind ←] theorem keeps_asyncMethod : Keeps text (asyncMethod inner) := by
  exact keeps_withMeaning _ _ ((keeps_formalParameters keep placed_noNames).bind fun _ placed =>
    keeps_methodBody keep placed)

@[grind ←] theorem keeps_getter : Keeps text (getter inner) := by
  intro state sound settled
  unfold getter
  refine Meets.getContext_bind.2 (keeps_withMeaning _ _ ?_ state sound settled)
  refine (keeps_formalParameters keep placed_noNames).bind fun _ placed state sound settled => ?_
  grind

@[grind ←] theorem keeps_setter : Keeps text (setter inner) := by
  intro state sound settled
  unfold setter
  refine Meets.getContext_bind.2 (keeps_withMeaning _ _ ?_ state sound settled)
  refine (keeps_formalParameters keep placed_noNames).bind fun _ placed state sound settled => ?_
  split <;> grind

@[grind ←] theorem keeps_generatorMethod : Keeps text (generatorMethod inner) := by
  intro state sound settled
  unfold generatorMethod
  refine Meets.getContext_bind.2 (keeps_withMeaning _ _ ?_ state sound settled)
  refine (keeps_formalParameters keep placed_noNames).bind fun _ placed state sound settled => ?_
  grind

omit keep

@[grind ←] theorem keeps_functionName {token : Token} (placed : Placed text token) :
    Keeps text (functionName token) := by
  intro state sound settled
  unfold functionName
  grind

include keep

@[grind ←] theorem keeps_functionRest {named : BoundNames Culprit} (placed : Placed text named) :
    Keeps text (functionRest inner named) := by
  intro state sound settled
  unfold functionRest
  grind

omit keep

@[grind .] theorem keeps_functionOpening : Keeps text functionOpening := by
  intro state sound settled
  unfold functionOpening
  grind

include keep

@[grind ←] theorem keeps_functionDeclaration (nameless : Bool) :
    Keeps text (functionDeclaration inner nameless) := by
  intro state sound settled
  unfold functionDeclaration
  grind

@[grind ←] theorem keeps_functionExpression : Keeps text (functionExpression inner) := by
  intro state sound settled
  unfold functionExpression
  refine Meets.keeps_bind keeps_functionOpening sound settled
    fun opening state sound settled _ => keeps_withMeaning _ _ ?_ state sound settled
  intro state sound settled
  grind

end ScriptCheck.Modern
