import ScriptCheck.Classic.Expression
import ScriptCheck.Proofs.Lines.Stepping

/-!
# Lines in functions and expressions

Every reader keeps states settled if those of the phrases within it do. Tokens that are kept to be
complained about later are those of names, which are on one line, but for two: the first text with
octal digits, and the token that an assignment starts with. The former may be said to span lines;
the latter is complained about only if the target is a name, and no name starts with a text
(`Nameless`).
-/

namespace ScriptCheck.Classic

open ScriptCheck.Grammar

-- Readers are searched through as a whole, with all of their branches.
set_option synthInstance.maxSize 20000

variable {text : List Char} {α β : Type} {state : State} {inner : Phrases}

/-- Readers of inner phrases that keep states settled. -/
class KeepsPhrases (text : List Char) (inner : Phrases) : Prop where
  assignment : Keeps text inner.assignment
  unary : Keeps text inner.unary
  callee : Keeps text inner.callee
  statement : Keeps text inner.statement
  item : Keeps text inner.item

attribute [instance] KeepsPhrases.assignment KeepsPhrases.unary KeepsPhrases.callee
  KeepsPhrases.statement KeepsPhrases.item

/-- A token of a name names its line, and is not a text. -/
structure IsName (text : List Char) (token : Token) : Prop where
  names : NamesLine text token
  kind : token.kind = .name

theorem IsName.notSpans {token : Token} (isName : IsName text token) : spans token = false := by
  simp [spans, isName.kind]

section

variable [KeepsPhrases text inner]

instance keeps_expression : Keeps text (expression inner) := by
  unfold expression
  infer_instance

instance keeps_wordAsName : Keeps text wordAsName :=
  gives_nextToken.andThen fun _ _ => inferInstance

theorem gives_plainName : Gives text plainName (IsName text) := by
  refine gives_nextToken.bind fun token names => ?_
  dsimp only
  split
  · exact (gives_failUnexpected names).never_bind
  next isName => exact .pure ⟨names, not_not.1 isName⟩

/-- A token that is bound is read as it was seen. -/
theorem gives_boundName : Gives text boundName (IsName text) := by
  refine fun state settled => .lookahead settled fun token found => ?_
  have names := settled.lookahead token found
  dsimp only
  split
  · exact (gives_failUnsupported.never_bind) state settled
  · split
    · exact (gives_failUnsupported.never_bind) state settled
    · split
      · exact ((gives_failUnexpected names).never_bind) state settled
      next isName =>
        refine (ends_nextToken settled).mono fun read after reached => ⟨reached.1, ?_⟩
        obtain rfl : token = read := Option.some.inj (found.symm.trans reached.2)
        exact ⟨names, not_not.1 isName⟩

instance keeps_checkOctal {token : Token} [names : NamesLine text token] :
    Keeps text (checkOctal token) :=
  keeps_getContext.andThen fun _ => .either (fun _ => (gives_failAbout names fun _ => rfl).keeps)
    fun _ => inferInstance

instance keeps_propertyKey : Keeps text (propertyKey inner) := by
  refine gives_nextToken.andThen fun token _ => ?_
  cases token.kind <;> infer_instance

/-- Names of which only tokens of names may be complained about. -/
def NamesBound (text : List Char) (bound : BoundNames Token) : Prop :=
  ∀ culprit, bound.firstRestricted = some culprit ∨ bound.restricted = some culprit →
    IsName text culprit

theorem namesBound_empty : NamesBound text {} := fun _ found => by simp at found

/-- One more parameter may be complained about. -/
theorem NamesBound.add {bound : BoundNames Token} (names : NamesBound text bound) (strict : Bool)
    {token : Token} (isName : IsName text token) (name : Name) :
    NamesBound text (bound.add strict token name) := by
  have first : (bound.add strict token name).firstRestricted = bound.firstRestricted ∨
      (bound.add strict token name).firstRestricted = some token := by
    unfold BoundNames.add
    dsimp only
    split_ifs <;> simp
  have repeated : (bound.add strict token name).restricted = bound.restricted ∨
      (bound.add strict token name).restricted = some token := by
    unfold BoundNames.add
    dsimp only
    split_ifs <;> simp
  rintro culprit (found | found)
  · rcases first with same | isToken
    · exact names culprit (.inl (same ▸ found))
    · exact Option.some.inj (isToken.symm.trans found) ▸ isName
  · rcases repeated with same | isToken
    · exact names culprit (.inr (same ▸ found))
    · exact Option.some.inj (isToken.symm.trans found) ▸ isName

/-- The first name at fault is one of the two. -/
theorem NamesBound.or {bound : BoundNames Token} (names : NamesBound text bound) {culprit : Token}
    (found : (bound.firstRestricted <|> bound.restricted) = some culprit) :
    IsName text culprit := by
  simp only [Option.orElse_eq_orElse, Option.orElse_eq_or, Option.or_eq_some_iff] at found
  exact names culprit (found.imp_right And.right)

theorem NamesBound.settled {bound : BoundNames Token} (names : NamesBound text bound) :
    NamesBound text bound.settled := by
  rintro culprit (found | found)
  · exact names.or found
  · exact names culprit (.inr found)

theorem namesBound_ofFunction {token : Token} (isName : IsName text token) (name : Name) :
    NamesBound text (.ofFunction token name) := by
  unfold BoundNames.ofFunction
  split_ifs
  · rintro culprit (⟨⟨⟩⟩ | found)
    · exact isName
    · cases found
  · rintro culprit (⟨⟨⟩⟩ | found)
    · exact isName
    · cases found
  · exact namesBound_empty

theorem gives_parameter {bound : BoundNames Token} (names : NamesBound text bound) :
    Gives text (parameter inner bound) (NamesBound text) := by
  have added (strict : Bool) {token : Token} (isName : IsName text token) : NamesBound text
      (if strict then bound.add strict token token.name
        else (bound.add strict token token.name).settled) := by
    have names := names.add strict isName token.name
    split
    · exact names
    · exact names.settled
  refine gives_lookahead.bind fun next _ => ?_
  dsimp only
  split
  · exact gives_failUnsupported.never_bind
  · refine gives_boundName.bind fun token isName => .behind fun context =>
      .behind fun hasDefault => ?_
    split
    · exact .behind fun _ => .behind fun _ => .pure (added _ isName)
    · exact .pure (added _ isName)

theorem gives_formalParameters {named : BoundNames Token} (names : NamesBound text named) :
    Gives text (formalParameters inner named) (NamesBound text) := by
  have bound : Gives text (iterate named fun bound => do
      let bound ← parameter inner bound
      if ← isAtSign [")"] then return .inr bound
      expect ","
      return .inl bound) (NamesBound text) := by
    refine .loop (NamesBound text) (fun bound names =>
      (gives_parameter names).bind fun bound names => .behind fun _ => ?_) names
    split
    · exact .pure names
    · exact .behind fun _ => .pure names
  refine .behind fun _ => .behind fun isEmpty => ?_
  dsimp only
  split
  · exact .bind (.pure names) fun _ names => .behind fun _ => .pure names
  · exact bound.bind fun _ names => .behind fun _ => .pure names

/-- A text with octal digits may be complained about when a later directive makes the code
strict. -/
instance keeps_directives : Keeps text (directives inner) := by
  have gives : Gives text (directives inner) fun _ => True := by
    refine .loop (fun firstOctal => ∀ octal, firstOctal = some octal → NamesLine text octal)
      (fun firstOctal names => ?_) (by simp)
    refine gives_lookahead.bind fun token tokenNames => ?_
    dsimp only
    split
    · exact .pure trivial
    · refine .behind fun _ => .behind fun node => .behind fun _ => ?_
      split
      · exact .pure trivial
      · refine .behind fun shown => ?_
        split
        · refine .behind fun _ => ?_
          cases firstOctal with
          | none => exact .pure names
          | some octal => exact (gives_failAbout (names octal rfl) fun _ => rfl).never
        · refine .pure fun octal found => ?_
          simp only [Option.orElse_eq_orElse, Option.orElse_eq_or, Option.or_eq_some_iff] at found
          rcases found with found | ⟨-, found⟩
          · exact names octal found
          · split at found
            · exact Option.some.inj found ▸ tokenNames
            · cases found
  exact gives.keeps

instance keeps_functionBody : Keeps text (functionBody inner) := by
  unfold functionBody
  infer_instance

theorem keeps_checkNames {bound : BoundNames Token} (names : NamesBound text bound) :
    Keeps text (checkNames bound) := by
  refine .andThen inferInstance fun context => .either (fun _ => ?_) fun _ => inferInstance
  cases found : bound.firstRestricted <|> bound.restricted with
  | none => infer_instance
  | some culprit =>
      have isName := names.or found
      refine (gives_failAbout isName.names fun isSpan => ?_).keeps
      rw [isName.notSpans] at isSpan
      cases isSpan

theorem keeps_checkedBody {bound : BoundNames Token} (names : NamesBound text bound)
    {body : Parse Unit} [Keeps text body] : Keeps text (checkedBody bound body) := by
  have := keeps_checkNames names
  unfold checkedBody
  infer_instance

theorem keeps_methodBody {bound : BoundNames Token} (names : NamesBound text bound) :
    Keeps text (methodBody inner bound) :=
  .andThen inferInstance fun _ => keeps_checkedBody names

instance keeps_method : Keeps text (method inner) :=
  (gives_formalParameters namesBound_empty).andThen fun _ => keeps_methodBody

instance keeps_getter : Keeps text (getter inner) :=
  .andThen inferInstance fun _ => .andThen inferInstance fun _ => keeps_methodBody namesBound_empty

instance keeps_setter : Keeps text (setter inner) := by
  have rest : Keeps text (do
      let bound ← parameter inner {}
      expect ")"
      methodBody inner bound) :=
    (gives_parameter namesBound_empty).andThen fun _ names =>
      .andThen inferInstance fun _ => keeps_methodBody names
  have refused : Keeps text (do failUnexpected (← lookahead) : Parse Unit) :=
    gives_lookahead.andThen fun _ _ => inferInstance
  refine .andThen inferInstance fun _ => .andThen inferInstance fun isEmpty =>
    .either (fun _ => ?_) fun _ => rest
  exact gives_lookahead.andThen fun _ _ => .andThen inferInstance fun _ => rest

theorem gives_functionName : Gives text functionName (NamesBound text) := by
  refine .behind fun isNameless => .either (.pure namesBound_empty) ?_
  refine gives_plainName.bind fun token isName => .behind fun context => .either (.either ?_ ?_)
    (.pure (namesBound_ofFunction isName _))
  · refine (gives_failAbout isName.names fun isSpan => ?_).never_bind
    rw [isName.notSpans] at isSpan
    cases isSpan
  · exact .pure namesBound_empty

instance keeps_function : Keeps text (function inner) :=
  .andThen inferInstance fun _ => gives_functionName.andThen fun _ names =>
    (gives_formalParameters names).andThen fun _ names => keeps_checkedBody names

instance keeps_group : Keeps text (group inner) := by
  unfold group
  infer_instance

instance keeps_array : Keeps text (array inner) := by
  unfold array
  infer_instance

instance keeps_property : Keeps text (property inner) := by
  refine gives_lookahead.andThen fun token _ => .andThen inferInstance fun _ =>
    gives_lookahead.andThen fun next names => ?_
  have covers : Keeps text (setContext fun context => { context with coverDefault := some next }) :=
    keeps_setContext fun _ _ _ found => Option.some.inj found ▸ names
  infer_instance

instance keeps_object : Keeps text (object inner) := by
  unfold object
  infer_instance

instance keeps_template : Keeps text template := by
  unfold template
  infer_instance

instance keeps_keywordOperand : Keeps text (keywordOperand inner) := by
  have other : Keeps text (do
      let token ← nextToken
      if !token.isKeyword ["this"] then failUnexpected token
      return ⟨.other, 0⟩ : Parse Node) := gives_nextToken.andThen fun _ _ => inferInstance
  unfold keywordOperand
  infer_instance

instance keeps_primary : Keeps text (primary inner) where
  ends state settled := by
    refine .lookahead settled fun token found => ?_
    have names := settled.lookahead token found
    have refused : Keeps text (do failUnexpected (← nextToken) : Parse Node) :=
      gives_nextToken.andThen fun _ _ => inferInstance
    cases kind : token.kind with
    | name | text | number | keyword | boolean | null | template =>
        exact Keeps.ends state settled
    | sign | endOfFile | pattern =>
        dsimp only
        split
        · exact Keeps.ends state settled
        · split
          · exact Keeps.ends state settled
          · split
            · exact Keeps.ends state settled
            · split
              · have isOnLine : spans token = false := by simp [spans, kind]
                have unspoilt :
                    { state with context.isAssignable := false }.Settled text := { settled with }
                exact (ends_nextPattern unspoilt found isOnLine).bind fun _ _ settled => settled
              · exact refused.ends state settled

instance keeps_arguments : Keeps text (arguments inner) := by
  unfold arguments
  infer_instance

instance keeps_construction : Keeps text (construction inner) := by
  unfold construction
  infer_instance

instance keeps_chainStart : Keeps text (chainStart inner) := by
  unfold chainStart
  infer_instance

instance keeps_chainLink {allowCall : Bool} : Keeps text (chainLink? inner allowCall) := by
  unfold chainLink?
  infer_instance

instance keeps_chain {allowCall : Bool} : Keeps text (chain inner allowCall) := by
  unfold chain
  infer_instance

instance keeps_callee : Keeps text (callee inner) := by
  unfold callee
  infer_instance

instance keeps_call : Keeps text (call inner) := by
  unfold call
  infer_instance

instance keeps_checkCounted {node : Node} {complaint : Complaint} :
    Keeps text (checkCounted node complaint) := by
  unfold checkCounted
  infer_instance

instance keeps_counted : Keeps text (counted inner) := by
  unfold counted
  infer_instance

instance keeps_unary : Keeps text (unary inner) := by
  unfold unary
  infer_instance

instance keeps_isAtBinary : Keeps text isAtBinary := by
  unfold isAtBinary
  infer_instance

instance keeps_binary : Keeps text (binary inner) := by
  unfold binary
  infer_instance

instance keeps_conditional : Keeps text (conditional inner) := by
  unfold conditional
  infer_instance

instance keeps_checkPattern {node : Node} : Keeps text (checkPattern node) := by
  unfold checkPattern
  infer_instance

end

/-- Not a name. -/
def IsOther (node : Node) : Prop := node.isName = false

/-- A token that spans lines is read next, and a step makes no name of it. -/
def Nameless (text : List Char) (step : Parse Node) : Prop :=
  ∀ state : State, state.Settled text →
    (∀ token, state.lookahead = some token → spans token = true) →
    Ends text (fun node after => after.Settled text ∧ IsOther node) (step state)

theorem Nameless.andThen {step : Parse Node} {next : Node → Parse Node}
    (nameless : Nameless text step)
    (rest : ∀ node, IsOther node → Gives text (next node) IsOther) :
    Nameless text (step >>= next) := fun state settled spanning =>
  (nameless state settled spanning).bind fun node after reached =>
    rest node reached.2 after reached.1

/-- What code allows makes no difference to the token that is read next. -/
theorem Nameless.allowing {step : Context → Parse Node} {change : Context → Context}
    (kept : ∀ context, NamesDefault text context → NamesDefault text (change context))
    (nameless : ∀ outer, NamesDefault text outer → Nameless text (step outer)) :
    Nameless text (do
      let outer ← getContext
      setContext change
      step outer) := fun state settled spanning =>
  nameless state.context settled.context { state with context := change state.context }
    { settled with context := kept _ settled.context } spanning

theorem Nameless.inherited {phrase : Parse Node} (nameless : Nameless text phrase) :
    Nameless text (inherited phrase) := by
  refine .allowing (fun _ _ _ found => nomatch found) fun outer outerNames =>
    nameless.andThen fun node other => ?_
  have := keeps_handOn outerNames
  exact .behind fun _ => .pure other

theorem isSign_of_spans {token : Token} (isSpan : spans token = true) (signs : List String) :
    token.isSign signs = false := by
  unfold spans at isSpan
  unfold Token.isSign
  cases kind : token.kind <;> simp_all

theorem isKeyword_of_spans {token : Token} (isSpan : spans token = true) (words : List String) :
    token.isKeyword words = false := by
  unfold spans at isSpan
  unfold Token.isKeyword
  cases kind : token.kind <;> simp_all

theorem nameless_primary : Nameless text (primary inner) := by
  refine fun state settled spanning => .lookahead settled fun token found => ?_
  have names := settled.lookahead token found
  have isSpan := spanning token found
  cases kind : token.kind with
  | text =>
      have literal : Gives text (do
          becomeAssignable false
          checkOctal token
          skipToken
          return ⟨.literal, 0⟩) IsOther :=
        .behind fun _ => .behind fun _ => .behind fun _ => .pure rfl
      exact literal state settled
  | template => exact (Gives.behind fun _ => gives_failUnsupported.never) state settled
  | name | number | keyword | boolean | null | sign | endOfFile | pattern =>
      simp [spans, kind] at isSpan

theorem nameless_chainStart : Nameless text (chainStart inner) := by
  refine fun state settled spanning => .isAtKeyword settled fun token found => ?_
  rw [isKeyword_of_spans (spanning token found)]
  show Ends text _ ((do
    if false ∧ state.context.inFunction then
      skipToken
      failUnsupported "Super"
    if ← isAtKeyword ["new"] then inherited (construction inner) else inherited (primary inner))
    state)
  rw [if_neg fun isSuper => nomatch isSuper.1]
  refine .isAtKeyword settled fun token found => ?_
  rw [isKeyword_of_spans (spanning token found)]
  exact nameless_primary.inherited state settled spanning

variable [KeepsPhrases text inner]

theorem nameless_chain {allowCall : Bool} : Nameless text (chain inner allowCall) :=
  nameless_chainStart.andThen fun _ other => .loop IsOther (fun _ other => .behind fun _ =>
    .either (.pure rfl) (.pure other)) other

theorem nameless_call : Nameless text (call inner) :=
  .allowing (fun _ names => names) fun _ _ => nameless_chain.andThen fun _ other =>
    .behind fun _ => .pure other

theorem nameless_counted : Nameless text (counted inner) :=
  nameless_call.inherited.andThen fun _ other => .behind fun _ => .behind fun _ => .either
    (.behind fun _ => .behind fun _ => .pure rfl) (.pure other)

theorem nameless_unary : Nameless text (unary inner) := by
  refine fun state settled spanning => .lookahead settled fun token found => ?_
  have isSpan := spanning token found
  simp only [isSign_of_spans isSpan, isKeyword_of_spans isSpan]
  exact nameless_counted state settled spanning

theorem nameless_binary : Nameless text (binary inner) :=
  nameless_unary.inherited.andThen fun _ other => .behind fun _ => .either (.pure other)
    (.behind fun _ => .loop IsOther (fun _ other => .behind fun _ => .either (.pure other)
      (.behind fun _ => .behind fun _ => .pure rfl)) other)

theorem nameless_conditional : Nameless text (conditional inner) := by
  refine nameless_binary.inherited.andThen fun _ other => .behind fun _ => .either (.pure other) ?_
  exact .behind fun _ => .behind fun _ => .behind fun _ => .behind fun _ => .behind fun _ =>
    .behind fun _ => .behind fun _ => .behind fun _ => .pure rfl

theorem isName_of_isRestrictedName {node : Node} (isRestricted : node.isRestrictedName = true) :
    node.isName = true := by
  unfold Node.isRestrictedName at isRestricted
  unfold Node.isName
  cases shape : node.shape with
  | name spelling => rfl
  | _ =>
      rw [shape] at isRestricted
      cases isRestricted

/-- An assignment is complained about where it starts, but only if its target is a name. -/
theorem keeps_assignmentTo {target : Node} {start : Token} (names : NamesLine text start)
    (isOnLine : target.isName = true → spans start = false) :
    Keeps text (assignmentTo inner target start) := by
  refine .andThen inferInstance fun context => .optional (fun _ => inferInstance)
    (.optional (fun refused => (gives_failAbout names fun isSpan => ?_).keeps) inferInstance)
  rw [isOnLine (isName_of_isRestrictedName refused.2)] at isSpan
  cases isSpan

instance keeps_assignment : Keeps text (assignment inner) where
  ends state settled := by
    refine .lookahead settled fun start found => ?_
    have names := settled.lookahead start found
    have read : Ends text (fun node after => after.Settled text ∧
        (node.isName = true → spans start = false)) (conditional inner state) := by
      cases isSpan : spans start with
      | true =>
          refine (nameless_conditional state settled fun token same => ?_).mono
            fun node after reached => ⟨reached.1, fun isName => ?_⟩
          · rw [found] at same
            exact Option.some.inj same ▸ isSpan
          · exact absurd isName (by simp [show node.isName = false from reached.2])
      | false => exact (Keeps.ends state settled).mono fun _ _ settled => ⟨settled, fun _ => rfl⟩
    refine read.bind fun node after reached => ?_
    have assigns : Keeps text (assignmentTo inner node start) :=
      keeps_assignmentTo names reached.2
    have taller : Keeps text
        (modify fun state => { state with tallest := max state.tallest node.links }) :=
      keeps_modify fun _ settled => { settled with }
    exact Keeps.ends after reached.1

end ScriptCheck.Classic
