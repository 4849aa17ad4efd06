import ScriptCheck.Modern.Stepping
import ScriptCheck.Proofs.Strictness.Characters

/-!
# Tokens in step

Only the separator between items is read differently in a strict run: it has to be there. A tolerant
run that misses it logs a problem, so the two stay in step.
-/

namespace ScriptCheck.Modern

open ScriptCheck.Grammar

set_option synthInstance.maxSize 4096

variable {α β : Type}

instance inStep_lookahead : InStep lookahead :=
  .get_bind (fun _ => rfl) fun _ => inferInstance

instance inStep_nextToken : InStep nextToken := by
  refine inStep_lookahead.andThen fun token => .andThen ?_ fun _ => .andThen inferInstance fun _ =>
    .andThen ?_ fun _ => .andThen inferInstance fun next => .andThen ?_ fun _ => inferInstance
  · exact .change _ (fun _ => rfl) fun _ => ⟨rfl, rfl⟩
  · refine .change _ (fun state => ?_) fun state => ?_
    · exact (apply_ite State.strictly (state.cursor.index = state.startMarker.index) state
        { state with startMarker := state.cursorMarker }).symm
    · split <;> exact ⟨rfl, rfl⟩
  · exact .change _ (fun _ => rfl) fun _ => ⟨rfl, rfl⟩

instance inStep_skipToken : InStep skipToken := by
  unfold skipToken
  infer_instance

instance inStep_tokenBehind : InStep tokenBehind := by
  unfold tokenBehind
  infer_instance

instance inStep_nextPattern : InStep nextPattern := by
  refine .get_bind (fun _ => rfl) fun state => .andThen inferInstance fun _ =>
    .andThen inferInstance fun _ => .andThen inferInstance fun token => .andThen ?_ fun _ =>
    inferInstance
  exact .change _ (fun _ => rfl) fun _ => ⟨rfl, rfl⟩

instance inStep_requireShown {token : Token} : InStep (requireShown token) := by
  unfold requireShown
  infer_instance

instance inStep_problemAbout {token : Token} {complaint : Complaint} :
    InStep (problemAbout token complaint) :=
  inStep_requireShown.andThen fun _ => .get_bind (fun _ => rfl) fun _ => inferInstance

instance inStep_problemBehind {complaint : Complaint} : InStep (problemBehind complaint) :=
  .get_bind (fun _ => rfl) fun _ => inferInstance

instance inStep_misfit {token : Token} : InStep (misfit token) := by
  unfold misfit
  infer_instance

instance inStep_failWith {problem : Problem} : InStep (failWith problem : Parse α) := .throw _

instance inStep_failAbout {token : Token} {complaint : Complaint} :
    InStep (failAbout token complaint : Parse α) := by
  unfold failAbout
  infer_instance

instance inStep_failUnexpected {token : Token} : InStep (failUnexpected token : Parse α) := by
  unfold failUnexpected
  infer_instance

instance inStep_failBehind {complaint : Complaint} : InStep (failBehind complaint : Parse α) := by
  unfold failBehind
  infer_instance

instance inStep_tolerateAbout {token : Token} {complaint : Complaint} :
    InStep (tolerateAbout token complaint) := by
  unfold tolerateAbout
  infer_instance

instance inStep_tolerateUnexpected {token : Token} : InStep (tolerateUnexpected token) := by
  unfold tolerateUnexpected
  infer_instance

instance inStep_tolerateBehind {complaint : Complaint} : InStep (tolerateBehind complaint) :=
  .get_bind (fun _ => rfl) fun _ => inferInstance

instance inStep_isAtSign {signs : List String} : InStep (isAtSign signs) := by
  unfold isAtSign
  infer_instance

instance inStep_isAtKeyword {words : List String} : InStep (isAtKeyword words) := by
  unfold isAtKeyword
  infer_instance

instance inStep_isAtName {name : String} : InStep (isAtName name) := by
  unfold isAtName
  infer_instance

instance inStep_isAtEndOfFile : InStep isAtEndOfFile := by
  unfold isAtEndOfFile
  infer_instance

instance inStep_lineEnded : InStep lineEnded :=
  .get_bind (fun _ => rfl) fun _ => inferInstance

instance inStep_expect {sign : String} : InStep (expect sign) := by
  unfold expect
  infer_instance

instance inStep_expectKeyword {word : String} : InStep (expectKeyword word) := by
  unfold expectKeyword
  infer_instance

section Separator

/-- A step that hands out one value only. -/
def Hands (value : α) (step : Parse α) : Prop :=
  ∀ state found after, step state = .ok found after → found = value

theorem Hands.pure (value : α) : Hands value (Pure.pure value) := by
  rintro state _ _ ⟨⟩
  rfl

/-- What a step hands out is what its last step does. -/
theorem Hands.bind {value : α} {step : Parse β} {next : β → Parse α}
    (rest : ∀ middle, Hands value (next middle)) : Hands value (step >>= next) := by
  intro state found after ran
  replace ran : EStateM.bind step next state = .ok found after := ran
  unfold EStateM.bind at ran
  split at ran
  · exact rest _ _ _ _ ran
  · cases ran

theorem lookahead_bind (next : Token → Parse α) (state : State) :
    (lookahead >>= next) state = next state.lookahead state := rfl

/-- The token that is read is the one that was read ahead. -/
theorem nextToken_hands {state after : State} {token : Token}
    (ran : nextToken state = .ok token after) : token = state.lookahead := by
  unfold nextToken at ran
  rw [lookahead_bind] at ran
  refine Hands.bind (fun _ => .bind fun _ => .bind fun _ => .bind fun _ => .bind fun _ => ?_)
    state token after ran
  exact .pure _

/-- A step that ends every run. -/
def Ends (step : Parse α) : Prop := ∀ state, ∃ failure after, step state = .error failure after

theorem Ends.behind {step : Parse β} {next : β → Parse α} (ends : ∀ value, Ends (next value)) :
    Ends (step >>= next) := by
  intro state
  show ∃ failure after, EStateM.bind step next state = .error failure after
  unfold EStateM.bind
  split
  · exact ends _ _
  · exact ⟨_, _, rfl⟩

/-- A complaint about a token ends the run. -/
theorem ends_failUnexpected (token : Token) : Ends (failUnexpected token : Parse α) :=
  .behind fun _ => .behind fun _ state => ⟨_, state, rfl⟩

/-- A step that fails in a tolerant run, or logs a problem. -/
def Logs (step : Parse α) : Prop :=
  ∀ state value after, state.tolerant = true → step state = .ok value after →
    after.tolerant = true ∧ state.tolerated.length < after.tolerated.length

theorem logs_tolerate (problem : Problem) : Logs (tolerate problem) := by
  intro state value after tolerant ran
  replace ran : (if state.tolerant = true then _ else _ : Parse Unit) state = .ok value after := ran
  rw [if_pos tolerant] at ran
  cases ran
  exact ⟨tolerant, Nat.lt_succ_self _⟩

/-- A problem that is logged behind a step in step. -/
theorem Logs.behind {step : Parse β} {next : β → Parse α} (first : InStep step)
    (logs : ∀ value, Logs (next value)) : Logs (step >>= next) := by
  intro state value last tolerant ran
  have agree := first.agree state tolerant
  replace ran : EStateM.bind step next state = .ok value last := ran
  unfold EStateM.bind at ran
  generalize step state = firstRan, step state.strictly = strictRan at agree ran
  cases agree with
  | alike tolerant same => exact same ▸ logs _ _ _ _ tolerant ran
  | logged tolerant more =>
      have logged := logs _ _ _ _ tolerant ran
      exact ⟨logged.1, Nat.lt_trans more logged.2⟩
  | failed => cases ran

theorem logs_tolerateAbout (token : Token) (complaint : Complaint) :
    Logs (tolerateAbout token complaint) :=
  .behind inferInstance logs_tolerate

theorem logs_tolerateUnexpected (token : Token) : Logs (tolerateUnexpected token) :=
  .behind inferInstance fun _ => logs_tolerateAbout token _

/-- A sign that is not next ends the run. -/
theorem expect_fails {sign : String} {state : State}
    (absent : state.lookahead.isSign [sign] = false) :
    ∃ failure after, expect sign state = .error failure after := by
  show ∃ failure after, EStateM.bind nextToken _ state = .error failure after
  unfold EStateM.bind
  cases ran : nextToken state with
  | error failure after => exact ⟨failure, after, rfl⟩
  | ok token after =>
      cases nextToken_hands ran
      simp only [absent, Bool.not_false, ↓reduceIte]
      exact ends_failUnexpected _ _

/-- A sign that is next is read. -/
theorem expect_eq_skipToken {sign : String} {state : State}
    (present : state.lookahead.isSign [sign] = true) : expect sign state = skipToken state := by
  show EStateM.bind nextToken _ state = EStateM.map _ nextToken state
  unfold EStateM.bind EStateM.map
  cases ran : nextToken state with
  | error failure after => rfl
  | ok token after =>
      cases nextToken_hands ran
      simp only [present, Bool.not_true, Bool.false_eq_true, ↓reduceIte]
      rfl

/-- Where the strict run fails, it is enough that the tolerant one logs a problem. -/
theorem Logs.agree {step : Parse α} (logs : Logs step) {state : State}
    (tolerant : state.tolerant = true) (failure : Failure) (last : State) :
    Agree state (step state) (.error failure last) := by
  cases ran : step state with
  | ok value after =>
      obtain ⟨stillTolerant, more⟩ := logs state value after tolerant ran
      exact .logged stillTolerant more
  | error => exact .failed

/-- A tolerant run that misses a separator logs this, where a strict one fails. -/
instance inStep_expectSeparator : InStep expectSeparator where
  agree state tolerant := by
    have strictRan : expectSeparator state.strictly = expect "," state.strictly := rfl
    have tolerantRan : expectSeparator state = (do
        let token ← lookahead
        if token.isSign [","] then skipToken
        else if token.isSign [";"] then
          skipToken
          tolerateUnexpected token
        else tolerateAbout token (.unexpectedToken token.value)) state := by
      show (if state.tolerant = true then _ else _ : Parse Unit) state = _
      rw [if_pos tolerant]
    rw [strictRan, tolerantRan, lookahead_bind]
    by_cases isNext : state.lookahead.isSign [","] = true
    · have strictly : state.strictly.lookahead.isSign [","] = true := isNext
      rw [expect_eq_skipToken strictly, if_pos isNext]
      exact inStep_skipToken.agree state tolerant
    · have strictly : state.strictly.lookahead.isSign [","] = false := Bool.not_eq_true _ ▸ isNext
      obtain ⟨failure, last, fails⟩ := expect_fails strictly
      rw [fails, if_neg isNext]
      refine Logs.agree ?_ tolerant failure last
      split
      · exact .behind inferInstance fun _ => logs_tolerateUnexpected _
      · exact logs_tolerateAbout _ _

end Separator

instance inStep_endStatement : InStep endStatement := by
  refine inStep_isAtSign.andThen fun _ => .either inferInstance (inStep_lineEnded.andThen fun _ =>
    .either (inStep_lookahead.andThen fun token => .optional inferInstance ?_) inferInstance)
  exact .change _ (fun _ => rfl) fun _ => ⟨rfl, rfl⟩

instance inStep_isolated {phrase : Parse α} [InStep phrase] : InStep (isolated phrase) := by
  refine inStep_getContext.andThen fun outer => inStep_setContext.andThen fun _ =>
    .andThen inferInstance fun result => inStep_getContext.andThen fun context => ?_
  cases context.coverDefault <;> infer_instance

instance inStep_inherited {phrase : Parse α} [InStep phrase] : InStep (inherited phrase) := by
  unfold inherited
  infer_instance

instance inStep_spoil : InStep spoil := inStep_setContext

instance inStep_becomeMember : InStep becomeMember := inStep_setContext

instance inStep_untilSign {sign : String} {item : Parse α} [InStep item] :
    InStep (untilSign sign item) := by
  unfold untilSign
  infer_instance

end ScriptCheck.Modern
