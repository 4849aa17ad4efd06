import ScriptCheck.Classic.State
import ScriptCheck.Proofs.Text.Placement

/-!
# Lines that complaints name

A complaint of the classic grammar has a line and an offset. The line was counted while the source
was read, the offset has a line of its own in the text. The two agree, with two exceptions: a
complaint may be about something that starts on one line and ends on a later one, and a line feed
that cuts a literal off is read but not counted. `Failure.NamesLine` says so of a failure.

What a state remembers for later complaints names its line as well (`State.Tracks`, and
`State.Settled` between tokens). `Ends` says of a step that it reaches a goal or fails with what
names its line, and `Keeps` that it goes from settled states to settled ones.
-/

namespace ScriptCheck.Classic

open ScriptCheck.Grammar

/-- The line on which an index of a text stands. -/
def lineOf (text : List Char) (index : Nat) : Nat := (Text.position text index).line

section

variable {text : List Char} {index : Nat}

/-- The place behind a character. -/
theorem position_succ {character : Char} (found : text[index]? = some character) :
    Text.position text ((index + 1 : Nat) : Int) =
      (Text.position text index).advance character := by
  simp only [Text.position, Int.toNat_natCast, List.take_add_one, found, Option.toList_some,
    List.foldl_append, List.foldl_cons, List.foldl_nil]

/-- A line feed starts a line. -/
theorem position_feed (found : text[index]? = some '\n') :
    Text.position text ((index + 1 : Nat) : Int) = ⟨lineOf text index + 1, 1⟩ := by
  rw [position_succ found]
  rfl

theorem lineOf_zero (text : List Char) : lineOf text 0 = 1 := by
  simp [lineOf, Text.position, Text.Place.first]

theorem lineOf_feed (found : text[index]? = some '\n') :
    lineOf text (index + 1) = lineOf text index + 1 := by
  rw [lineOf, position_feed found]

/-- Only line feeds start lines. -/
theorem lineOf_succ (notFeed : text[index]? ≠ some '\n') :
    lineOf text (index + 1) = lineOf text index := by
  cases found : text[index]? with
  | none =>
      have short := List.getElem?_eq_none_iff.1 found
      simp [lineOf, Text.position, List.take_of_length_le short,
        List.take_of_length_le (Nat.le_succ_of_le short)]
  | some character =>
      have other : character ≠ '\n' := fun isFeed => notFeed (isFeed ▸ found)
      rw [lineOf, position_succ found, Text.Place.advance, if_neg other, lineOf]

/-- Where no line feed stands between two indices they are on one line. -/
theorem lineOf_add {distance : Nat}
    (noFeed : ∀ step < distance, text[index + step]? ≠ some '\n') :
    lineOf text (index + distance) = lineOf text index := by
  induction distance with
  | zero => rfl
  | succ distance inductionHypothesis =>
      rw [← Nat.add_assoc, lineOf_succ (noFeed distance (Nat.lt_succ_self _))]
      exact inductionHypothesis fun step before => noFeed step (Nat.lt_succ_of_lt before)

end

/-- Complaints about what may start on one line and end on a later one: a text, a piece of a
template, or a feature that is refused only where it has been read. -/
def spansLines : Complaint → Bool
  | .unexpectedString | .unexpectedTemplate _ | .strictOctal | .unsupported _ => true
  | _ => false

/-- Complaints about a literal that a line feed cuts off. -/
def cutsOff : Complaint → Bool
  | .unterminatedPattern => true
  | complaint => complaint == .illegal

/-- The line that a complaint names is that of its offset. What spans lines may name a later one,
and where a literal is cut off, the line feed before the offset is not counted. -/
def Failure.NamesLine (text : List Char) : Failure → Prop
  | .complaint line offset found =>
      lineOf text offset = line ∨ (spansLines found = true ∧ lineOf text offset ≤ line) ∨
        (cutsOff found = true ∧ Text.position text offset = ⟨line + 1, 1⟩)
  | _ => True

/-- Whether line feeds may stand in a token. -/
def spans (token : Token) : Bool := token.kind == .text || token.kind == .template

/-- The line that a token names is that of its start, or a later one if line feeds may stand in
it. -/
class NamesLine (text : List Char) (token : Token) : Prop where
  line_le : lineOf text token.start ≤ token.line
  line_eq : spans token = false → lineOf text token.start = token.line
  start : text[token.start]? ≠ some '\n'

/-- The equals sign that code may not have names its line. -/
def NamesDefault (text : List Char) (context : Context) : Prop :=
  ∀ token, context.coverDefault = some token → NamesLine text token

/-- A state all of whose places name their lines. In the source every line end is a line feed. -/
structure State.Tracks (text : List Char) (state : State) : Prop where
  feeds : ∀ character ∈ text, isLineEnd character = true → character = '\n'
  source : state.source = text.toArray
  cursor : state.cursor.line = lineOf text state.cursor.index
  lastPlace : state.lastPlace.line = lineOf text state.lastPlace.index
  startPlace : state.startPlace.line = lineOf text state.startPlace.index
  context : NamesDefault text state.context

/-- A state between tokens: the cursor stands behind the token that is read next. -/
structure State.Settled (text : List Char) (state : State) : Prop extends
    State.Tracks text state where
  last_le : state.lastPlace.line ≤ state.cursor.line
  start_le : state.startPlace.line ≤ state.cursor.line
  lookahead : ∀ token, state.lookahead = some token → NamesLine text token
  start_eq : ∀ token, state.lookahead = some token → token.start = state.startPlace.index
  line_eq : ∀ token, state.lookahead = some token → token.line = state.cursor.line

variable {text : List Char} {α β γ : Type}

/-- A step that ended so reached a goal, or failed and names its line. -/
def Ends (text : List Char) (goal : α → State → Prop) : EStateM.Result Failure State α → Prop
  | .ok value after => goal value after
  | .error failure _ => failure.NamesLine text

namespace Ends

/-- A step that reaches its goal reaches weaker ones. -/
theorem mono {goal weaker : α → State → Prop} {ended : EStateM.Result Failure State α}
    (ends : Ends text goal ended) (weaken : ∀ value after, goal value after → weaker value after) :
    Ends text weaker ended := by
  cases ended with
  | ok value after => exact weaken value after ends
  | error failure after => exact ends

/-- A step goes on from wherever the step before it ends. -/
theorem bind {step : Parse α} {next : α → Parse β} {state : State} {middle : α → State → Prop}
    {goal : β → State → Prop} (first : Ends text middle (step state))
    (rest : ∀ value after, middle value after → Ends text goal (next value after)) :
    Ends text goal ((step >>= next) state) := by
  show Ends text goal (EStateM.bind step next state)
  unfold EStateM.bind
  cases ended : step state with
  | ok value after =>
      rw [ended] at first
      exact rest value after first
  | error failure after =>
      rw [ended] at first
      exact first

/-- What is true where the step before it ends is told. -/
theorem through {step : Parse α} {next : α → Parse β} {state : State} {goal : β → State → Prop}
    (middle : α → State → Prop) (first : Ends text middle (step state))
    (rest : ∀ value after, middle value after → Ends text goal (next value after)) :
    Ends text goal ((step >>= next) state) := first.bind rest

/-- The value of a step may be thrown away. -/
theorem discard {step : Parse α} {state : State} {goal : State → Prop}
    (ends : Ends text (fun _ => goal) (step state)) :
    Ends text (fun _ => goal) ((Functor.discard step : Parse Unit) state) := by
  show Ends text (fun _ => goal) ((step >>= fun _ => pure ()) state)
  exact ends.bind fun _ _ reached => reached

/-- A loop keeps an invariant turn by turn, and complains at its cursor if it never ends. -/
theorem iterate {start : α} {step : α → Parse (α ⊕ β)} {state : State} {goal : β → State → Prop}
    (keep : α → State → Prop) (first : keep start state)
    (tracks : ∀ value after, keep value after → after.cursor.line = lineOf text after.cursor.index)
    (turn : ∀ value before, keep value before → Ends text (fun found after =>
      match found with
      | .inl next => keep next after
      | .inr answer => goal answer after) (step value before)) :
    Ends text goal (Grammar.iterate start step state) := by
  show Ends text goal (untilDone step (state.source.size + 3) start state)
  generalize state.source.size + 3 = turns
  induction turns generalizing start state with
  | zero => exact .inl (tracks start state first).symm
  | succ turns inductionHypothesis =>
      refine bind (turn start state first) fun found after reached => ?_
      cases found with
      | inl next => exact inductionHypothesis reached
      | inr answer => exact reached

end Ends

end ScriptCheck.Classic
