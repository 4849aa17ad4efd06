import ScriptCheck.Modern.Primary
import ScriptCheck.Proofs.Places.Function

/-!
# Places while classes and primary expressions are read
-/

namespace ScriptCheck.Modern

open ScriptCheck.Grammar

variable {text : Array Char} {inner : Phrases} (keep : inner.Keep text)

instance : Placeless MethodKind := ⟨⟩

/-- The opening of a class element leads to complaints about its token. -/
instance : Placeable ElementOpening where
  Placed text opening := Placed text opening.token

@[grind =] theorem placed_elementOpening (opening : ElementOpening) :
    Placed text opening ↔ Placed text opening.token := .rfl

@[grind norm] theorem Meets.isAtBracket_bind {β : Type} {state : State} {next : Bool → Parse β}
    {goal : β → State → Prop} :
    Meets text (isAtBracket >>= next) state goal ↔
      Meets text (next (state.lookahead.isSign ["["])) state goal :=
  Meets.isAtSign_bind

include keep

@[grind ←] theorem keeps_elementOpening : Keeps text (elementOpening inner) := by
  intro state sound settled
  unfold elementOpening
  refine Meets.lookahead_bind.2 ?_
  have tokenPlaced := sound.lookahead
  dsimp only
  split
  · grind
  · refine Meets.isAtBracket_bind.2 (Meets.keeps_bind (keeps_propertyKey keep) sound settled
      fun key state sound settled _ => Meets.lookahead_bind.2 ?_)
    have followingPlaced := sound.lookahead
    split
    · refine Meets.isAtBracket_bind.2 ?_
      split
      · refine Meets.keeps_bind keeps_skipToken sound settled fun _ state sound settled _ => ?_
        grind
      · refine Meets.keeps_bind (keeps_propertyKey keep) sound settled
          fun _ state sound settled _ => ?_
        grind
    · grind

@[grind ←] theorem keeps_elementMethod (opening : ElementOpening) :
    Keeps text (elementMethod inner opening) := by
  intro state sound settled
  unfold elementMethod
  refine Meets.lookahead_bind.2 ?_
  have followingPlaced := sound.lookahead
  dsimp only
  split
  · grind
  · split
    · grind
    · split
      · grind
      · split <;> grind

@[grind ←] theorem keeps_classElement (hasConstructor : Bool) :
    Keeps text (classElement inner hasConstructor) := by
  intro state sound settled
  unfold classElement
  grind

@[grind ←] theorem keeps_classBody : Keeps text (classBody inner) := by
  intro state sound settled
  unfold classBody
  have elements : Keeps text (iterate false fun hasConstructor => do
      if ← isAtSign ["\x7d"] then return .inr hasConstructor
      if ← isAtSign [";"] then
        skipToken
        return .inl hasConstructor
      return .inl (← classElement inner hasConstructor)) := by
    refine .iterate trivial fun _ _ state sound settled => ?_
    grind
  grind

@[grind ←] theorem keeps_classWith {name : Parse Unit} (keeps : Keeps text name) :
    Keeps text (classWith inner name) := by
  intro state sound settled
  unfold classWith
  grind

omit keep

@[grind .] theorem keeps_optionalName : Keeps text optionalName := by
  intro state sound settled
  unfold optionalName
  grind

include keep

@[grind ←] theorem keeps_classDeclaration (nameless : Bool) :
    Keeps text (classDeclaration inner nameless) := by
  intro state sound settled
  unfold classDeclaration
  grind

@[grind ←] theorem keeps_classExpression : Keeps text (classExpression inner) := by
  intro state sound settled
  unfold classExpression
  grind

@[grind ←] theorem keeps_spread : Keeps text (spread inner) := by
  intro state sound settled
  unfold spread
  grind

@[grind ←] theorem keeps_arrayLiteral : Keeps text (arrayLiteral inner) := by
  intro state sound settled
  unfold arrayLiteral
  refine Meets.keeps_bind (keeps_expect "[") sound settled fun _ state sound settled _ =>
    Meets.iterate_kept_bind sound settled (placed_list _) ?_ ?_
  · intro elements state sound settled _
    refine Meets.isAtSign_bind.2 ?_
    dsimp only
    split
    · grind
    · refine Meets.isAtSign_bind.2 ?_
      split
      · grind
      · refine Meets.isAtSign_bind.2 ?_
        split
        · refine Meets.keeps_bind (keeps_spread keep) sound settled
            fun _ state sound settled _ => ?_
          grind
        · grind
  · grind

@[grind ←] theorem keeps_propertyRest (token : Token) (key : Option Node)
    (computed isAsync hasProto : Bool) :
    Keeps text (propertyRest inner token key computed isAsync hasProto) := by
  intro state sound settled
  unfold propertyRest
  cases key with
  | none => grind
  | some key =>
      dsimp only
      rw [pure_bind]
      refine Meets.isAtSign_bind.2 ?_
      split
      · grind
      · refine Meets.isAtSign_bind.2 ?_
        split
        · grind
        · grind

@[grind ←] theorem keeps_property (hasProto : Bool) : Keeps text (property inner hasProto) := by
  have tail : ∀ {token : Token} (key : Option Node) (computed isAsync : Bool), Placed text token →
      Keeps text (do
        let keyFollows := (← lookahead).startsProperty
        if token.isNamed "get" ∧ !isAsync ∧ keyFollows then
          discard (propertyKey inner)
          setContext fun context => { context with allowYield := false }
          getter inner
          return (.other, hasProto)
        if token.isNamed "set" ∧ !isAsync ∧ keyFollows then
          discard (propertyKey inner)
          setter inner
          return (.other, hasProto)
        if token.isSign ["*"] ∧ keyFollows then
          discard (propertyKey inner)
          generatorMethod inner
          return (.other, hasProto)
        propertyRest inner token key computed isAsync hasProto) := by
    intro token key computed isAsync placed state sound settled
    grind
  intro state sound settled
  unfold property
  refine Meets.lookahead_bind.2 ?_
  have tokenPlaced := sound.lookahead
  dsimp only
  split
  · refine Meets.keeps_bind keeps_skipToken sound settled fun _ state sound settled _ =>
      Meets.isAtBracket_bind.2 (Meets.lineEnded_bind.2 (Meets.isAtSign_bind.2 ?_))
    split
    · refine Meets.keeps_bind (keeps_propertyKey keep) sound settled
        fun key state sound settled _ => ?_
      rw [pure_bind]
      exact tail _ _ _ tokenPlaced state sound settled
    · rw [pure_bind, pure_bind]
      exact tail _ _ _ tokenPlaced state sound settled
  · split
    · refine Meets.keeps_bind keeps_skipToken sound settled fun _ state sound settled _ => ?_
      rw [pure_bind]
      exact tail _ _ _ tokenPlaced state sound settled
    · refine Meets.isAtBracket_bind.2 (Meets.keeps_bind (keeps_propertyKey keep) sound settled
        fun key state sound settled _ => ?_)
      rw [pure_bind]
      exact tail _ _ _ tokenPlaced state sound settled

@[grind ←] theorem keeps_objectLiteral : Keeps text (objectLiteral inner) := by
  intro state sound settled
  unfold objectLiteral
  have start : Placed text (([] : List Node), false) := ⟨placed_list _, trivial⟩
  refine Meets.keeps_bind (keeps_expect "\x7b") sound settled fun _ state sound settled _ =>
    Meets.iterate_kept_bind sound settled start ?_ ?_
  · rintro ⟨values, hasProto⟩ state sound settled -
    refine Meets.isAtSign_bind.2 ?_
    dsimp only
    split
    · exact ⟨sound, settled, placed_list _, trivial⟩
    · refine Meets.isAtSign_bind.2 ?_
      split
      · refine Meets.keeps_bind (keeps_spread keep) sound settled fun _ state sound settled _ => ?_
        grind
      · refine Meets.keeps_bind (keeps_property keep hasProto) sound settled
          fun found state sound settled _ => ?_
        grind
  · rintro ⟨values, hasProto⟩ state sound settled -
    grind

@[grind ←] theorem keeps_templateLiteral : Keeps text (templateLiteral inner) := by
  intro state sound settled
  unfold templateLiteral
  refine Meets.lookahead_bind.2 ?_
  split
  · exact Meets.throw_bind sound trivial
  · refine Meets.keeps_bind keeps_nextToken sound settled fun first state sound settled placed =>
      Meets.iterate_kept sound settled placed ?_
    grind

omit keep

@[grind .] theorem keeps_requireArrow : Keeps text requireArrow := by
  intro state sound settled
  unfold requireArrow
  grind

include keep

@[grind ←] theorem keeps_groupParts (first : Node) : Keeps text (groupParts inner first) := by
  intro state sound settled
  unfold groupParts
  refine Meets.setContext_bind.2 (Meets.iterate_kept ?_ settled (placed_list _) ?_)
  · grind
  · intro parts state sound settled _
    refine Meets.isAtSign_bind.2 ?_
    split
    · grind
    · refine Meets.keeps_bind keeps_skipToken sound settled fun _ state sound settled _ => ?_
      refine Meets.isAtSign_bind.2 ?_
      split
      · grind
      · refine Meets.isAtSign_bind.2 ?_
        split
        · refine Meets.getContext_bind.2 ?_
          dsimp only
          split
          · grind
          · refine Meets.keeps_bind (keeps_restParameter keep) sound settled
              fun rest state sound settled placed => ?_
            refine Meets.keeps_bind (keeps_expect ")") sound settled
              fun _ state sound settled _ => ?_
            grind
        · grind

@[grind ←] theorem keeps_group : Keeps text (group inner) := by
  intro state sound settled
  unfold group
  refine Meets.keeps_bind (keeps_expect "(") sound settled fun _ state sound settled _ =>
    Meets.isAtSign_bind.2 ?_
  dsimp only
  split
  · grind
  · refine Meets.isAtSign_bind.2 ?_
    split
    · grind
    · refine Meets.setContext_bind.2 (Meets.keeps_bind (keeps_inherited keep.assignment) ?_ settled
        fun first state sound settled _ => Meets.isAtSign_bind.2 ?_)
      · grind
      · grind

omit keep

@[grind .] theorem keeps_isAtAsyncFunction : Keeps text isAtAsyncFunction := by
  intro state sound settled
  unfold isAtAsyncFunction
  grind

@[grind .] theorem keeps_isAtImportCall : Keeps text isAtImportCall := by
  intro state sound settled
  unfold isAtImportCall
  grind

@[grind .] theorem keeps_literal : Keeps text literal := by
  intro state sound settled
  unfold literal
  grind

include keep

@[grind ←] theorem keeps_keywordExpression : Keeps text (keywordExpression inner) := by
  intro state sound settled
  unfold keywordExpression
  grind

@[grind ←] theorem keeps_primary : Keeps text (primary inner) := by
  intro state sound settled
  unfold primary
  refine Meets.lookahead_bind.2 ?_
  have tokenPlaced := sound.lookahead
  have pattern (isSign : state.lookahead.kind = .sign) : Meets text (do
      spoil
      nextPattern
      return Node.literal none) state (Kept text) := by
    unfold spoil
    refine Meets.setContext_bind.2 ((meets_nextPattern ?_ ?_ ?_).bind ?_) <;> grind
  split <;> grind

end ScriptCheck.Modern
