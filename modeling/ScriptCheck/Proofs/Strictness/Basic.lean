import ScriptCheck.Modern.State

/-!
# Strict and tolerant runs in step

A strict run is a tolerant run that ends at the first problem. `InStep` says this of one step: from
the same state, the strict run does what the tolerant one does, up to the point where a problem is
logged; there it fails. Steps in step can be put together, so one instance for each reader says all
about whole runs.
-/

namespace ScriptCheck.Modern

open ScriptCheck.Grammar

/-- The state of a strict run at the same point. -/
def State.strictly (state : State) : State := { state with tolerant := false }

variable {α β : Type}

/-- How a tolerant step and a strict one end that began in the same state: alike, or with problems
that are logged in the tolerant run and end the strict one. -/
inductive Agree (before : State) :
    EStateM.Result Failure State α → EStateM.Result Failure State α → Prop
  | alike {value : α} {after : State} (tolerant : after.tolerant = true)
      (same : after.tolerated = before.tolerated) :
      Agree before (.ok value after) (.ok value after.strictly)
  | logged {value : α} {after last : State} {failure : Failure} (tolerant : after.tolerant = true)
      (more : before.tolerated.length < after.tolerated.length) :
      Agree before (.ok value after) (.error failure last)
  | failed {failure strictFailure : Failure} {after last : State} :
      Agree before (.error failure after) (.error strictFailure last)

namespace Agree

variable {before middle : State} {ran strictRan : EStateM.Result Failure State α}

/-- Where nothing was logged so far, the comparison may start earlier. -/
theorem of_same (agree : Agree middle ran strictRan)
    (same : middle.tolerated = before.tolerated) : Agree before ran strictRan := by
  cases agree with
  | alike tolerant sameLast => exact .alike tolerant (sameLast.trans same)
  | logged tolerant more => exact .logged tolerant (same ▸ more)
  | failed => exact .failed

/-- Where a problem was logged before, the strict run has failed. -/
theorem of_more (agree : Agree middle ran strictRan)
    (more : before.tolerated.length < middle.tolerated.length) (failure : Failure) (last : State) :
    Agree before ran (.error failure last) := by
  cases agree with
  | alike tolerant same => exact .logged tolerant (same ▸ more)
  | logged tolerant evenMore => exact .logged tolerant (Nat.lt_trans more evenMore)
  | failed => exact .failed

end Agree

/-- A step that a strict run does as a tolerant one does, unless a problem is met. Then the strict
run fails, and the tolerant one fails or logs it. -/
class InStep (step : Parse α) : Prop where
  agree (state : State) (tolerant : state.tolerant = true) :
    Agree state (step state) (step state.strictly)

namespace InStep

/-- A step that no problem is met in, and that does not see how strict the run is. -/
theorem of_eq {step : Parse α} (value : State → α) (change : State → State)
    (ran : ∀ state, step state = .ok (value state) (change state))
    (blind : ∀ state, value state.strictly = value state)
    (apart : ∀ state, change state.strictly = (change state).strictly)
    (kept : ∀ state, (change state).tolerant = state.tolerant ∧
      (change state).tolerated = state.tolerated) : InStep step where
  agree state tolerant := by
    rw [ran, ran, blind, apart]
    exact .alike ((kept state).1.trans tolerant) (kept state).2

/-- A step that only looks at what is the same in both runs. -/
theorem look (value : State → α) (blind : ∀ state, value state.strictly = value state) :
    InStep (fun state => .ok (value state) state) :=
  of_eq value id (fun _ => rfl) blind (fun _ => rfl) fun _ => ⟨rfl, rfl⟩

/-- A step that only changes what is the same in both runs. -/
theorem change (change : State → State)
    (apart : ∀ state, change state.strictly = (change state).strictly)
    (kept : ∀ state, (change state).tolerant = state.tolerant ∧
      (change state).tolerated = state.tolerated) : InStep (modify change : Parse Unit) :=
  of_eq (fun _ => ()) change (fun _ => rfl) (fun _ => rfl) apart kept

instance pure (value : α) : InStep (Pure.pure value : Parse α) := look (fun _ => value) fun _ => rfl

instance throw (failure : Failure) : InStep (MonadExcept.throw failure : Parse α) where
  agree _ _ := .failed

/-- Two steps in step, one behind the other. -/
theorem andThen {step : Parse α} {next : α → Parse β} (first : InStep step)
    (rest : ∀ value, InStep (next value)) : InStep (step >>= next) where
  agree state tolerant := by
    have agree := first.agree state tolerant
    show Agree state (EStateM.bind step next state) (EStateM.bind step next state.strictly)
    unfold EStateM.bind
    generalize step state = ran, step state.strictly = strictRan at agree
    cases agree with
    | @alike value after tolerant same => exact ((rest value).agree after tolerant).of_same same
    | @logged value after last failure tolerant more =>
        exact ((rest value).agree after tolerant).of_more more failure last
    | failed => exact .failed

instance bind {step : Parse α} {next : α → Parse β} [InStep step]
    [∀ value, InStep (next value)] : InStep (step >>= next) := andThen inferInstance inferInstance

instance map {change : α → β} {step : Parse α} [InStep step] : InStep (change <$> step) :=
  inferInstanceAs (InStep (step >>= fun value => Pure.pure (change value)))

instance discard {step : Parse α} [InStep step] : InStep (Functor.discard step) :=
  inferInstanceAs (InStep ((fun _ => PUnit.unit) <$> step))

/-- A step that is one of two. -/
theorem either {condition : Prop} [Decidable condition] {first second : Parse α}
    (firstInStep : InStep first) (secondInStep : InStep second) :
    InStep (if condition then first else second) := by
  split <;> assumption

instance ite {condition : Prop} [Decidable condition] {first second : Parse α} [InStep first]
    [InStep second] : InStep (if condition then first else second) :=
  either inferInstance inferInstance

/-- A step that may be left out, with another one behind it. -/
theorem optional {condition : Prop} [Decidable condition] {step : Parse Unit}
    {next : Unit → Parse α} (first : InStep step) (rest : InStep (next ())) :
    InStep (if condition then step >>= next else next ()) :=
  either (first.andThen fun _ => rest) rest

/-- One of two steps, with another one behind it. -/
theorem chosen {condition : Prop} [Decidable condition] {first second : Parse β}
    {next : β → Parse α} (firstInStep : InStep first) (secondInStep : InStep second)
    (rest : ∀ value, InStep (next value)) :
    InStep (if condition then first >>= next else second >>= next) :=
  either (firstInStep.andThen rest) (secondInStep.andThen rest)

/-- What is done with the state does not depend on how strict the run is. -/
theorem get_bind {next : State → Parse β} (blind : ∀ state, next state.strictly = next state)
    (rest : ∀ state, InStep (next state)) : InStep (get >>= next) where
  agree state tolerant := by
    show Agree state (next state state) (next state.strictly state.strictly)
    rw [blind]
    exact (rest state).agree state tolerant

instance failAtCursor {complaint : Complaint} :
    InStep (Grammar.failAtCursor complaint : Parse α) where
  agree _ _ := .failed

/-- A loop is in step if its turns are. -/
theorem loop {step : α → Parse (α ⊕ β)} (turn : ∀ value, InStep (step value)) (start : α) :
    InStep (Grammar.iterate start step) := by
  refine get_bind (fun _ => rfl) fun state => ?_
  generalize (Reading.source Failure state).size + 3 = turns
  induction turns generalizing start with
  | zero => exact failAtCursor
  | succ turns inductionHypothesis =>
      refine andThen (turn start) fun found => ?_
      cases found with
      | inl next => exact inductionHypothesis next
      | inr answer => exact pure answer

instance iterate {step : α → Parse (α ⊕ β)} [turn : ∀ value, InStep (step value)] {start : α} :
    InStep (Grammar.iterate start step) := loop turn start

end InStep

end ScriptCheck.Modern
