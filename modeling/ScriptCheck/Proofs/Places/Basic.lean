import ScriptCheck.Modern.State
import ScriptCheck.Proofs.Places.LineEnd

/-!
# Places of problems

A complaint of the modern grammar counts its column from the start of a line that need not be the
line of what it is about, so a column can fall below one. The rest of its place is sound: the line
is one of the source, the column is no further than the source, and it falls below one only if the
source has several lines at all.

`Placed` says this of a value that a reader hands out, and `State.Sound` of everything that a state
remembers for later complaints. `Meets` is what a reader does from a given state, and `Keeps` what
it does from every sound state: it leaves a sound state behind, hands out what has a place, and
fails only with what has a place.
-/

namespace ScriptCheck.Modern

open ScriptCheck.Grammar

/-- Whether a text has a line end. -/
def HasLineEnd (text : Array Char) : Prop := ∃ character ∈ text, isLineEnd character = true

/-- An index at which a line may start: only the first one, if the text has no line end. -/
def MayStartLine (text : Array Char) (index : Nat) : Prop :=
  index ≤ text.size ∧ (index = 0 ∨ HasLineEnd text)

/-- Whether a number is that of a line of a text. -/
def IsLine (text : Array Char) (line : Nat) : Prop := 1 ≤ line ∧ line ≤ lineNumber text text.size

/-- Values that may lead to complaints about a text. -/
class Placeable (α : Type) where
  /-- Whether every complaint that a value leads to has a place in a text. -/
  Placed : Array Char → α → Prop

export Placeable (Placed)

/-- Values that lead to no complaint. -/
class Placeless (α : Type)

instance {α : Type} [Placeless α] : Placeable α := ⟨fun _ _ => True⟩

instance : Placeless Unit := ⟨⟩
instance : Placeless Bool := ⟨⟩
instance : Placeless Nat := ⟨⟩
instance : Placeless Char := ⟨⟩
instance : Placeless Complaint := ⟨⟩

/-- A problem has a line, and a column no further than behind the end. Only a text of several lines
has columns below one, and none of them further below than the text is long. -/
instance : Placeable Problem where
  Placed text problem :=
    IsLine text problem.line ∧ problem.column ≤ text.size + 2 ∧
      -(text.size : Int) ≤ problem.column ∧ (1 ≤ problem.column ∨ HasLineEnd text)

instance : Placeable Failure where
  Placed text
    | .problem problem => Placed text problem
    | _ => True

instance : Placeable Token where
  Placed text token := IsLine text token.line ∧ token.start ≤ text.size

/-- A marker counts its column from where a line may start. -/
instance : Placeable Marker where
  Placed text marker :=
    IsLine text marker.line ∧ marker.index ≤ text.size ∧
      ∃ lineStart : Nat, marker.column = (marker.index : Int) - lineStart ∧
        MayStartLine text lineStart

instance {α : Type} [Placeable α] : Placeable (Option α) where
  Placed text value := ∀ inner, value = some inner → Placed text inner

instance {α : Type} [Placeable α] : Placeable (List α) where
  Placed text values := ∀ value ∈ values, Placed text value

instance {α β : Type} [Placeable α] [Placeable β] : Placeable (α × β) where
  Placed text pair := Placed text pair.1 ∧ Placed text pair.2

instance {α β : Type} [Placeable α] [Placeable β] : Placeable (α ⊕ β) where
  Placed text
    | .inl left => Placed text left
    | .inr right => Placed text right

instance : Placeable Context where
  Placed text context := Placed text context.coverDefault

section

variable {text : Array Char} {α β : Type} [Placeable α] [Placeable β]

@[simp, grind .] theorem placed_placeless {α : Type} [Placeless α] (value : α) :
    Placed text value := trivial

theorem placed_problem (problem : Problem) :
    Placed text problem ↔ IsLine text problem.line ∧ problem.column ≤ text.size + 2 ∧
      -(text.size : Int) ≤ problem.column ∧ (1 ≤ problem.column ∨ HasLineEnd text) := .rfl

theorem placed_token (token : Token) :
    Placed text token ↔ IsLine text token.line ∧ token.start ≤ text.size := .rfl

@[simp, grind =] theorem placed_none : Placed text (none : Option α) ↔ True := by
  simp [Placed]

@[simp, grind =] theorem placed_some (value : α) :
    Placed text (some value) ↔ Placed text value := by
  simp [Placed]

theorem placed_orElse {first second : Option α} (firstPlaced : Placed text first)
    (secondPlaced : Placed text second) : Placed text (first <|> second) := by
  cases first with
  | none => exact secondPlaced
  | some value => exact firstPlaced

@[simp, grind =] theorem placed_nil : Placed text ([] : List α) ↔ True := by
  simp [Placed]

@[simp, grind =] theorem placed_cons (value : α) (values : List α) :
    Placed text (value :: values) ↔ Placed text value ∧ Placed text values := by
  simp [Placed]

@[simp, grind =] theorem placed_reverse (values : List α) :
    Placed text values.reverse ↔ Placed text values := by
  simp [Placed]

@[simp, grind =] theorem placed_pair (pair : α × β) :
    Placed text pair ↔ Placed text pair.1 ∧ Placed text pair.2 := .rfl

@[simp, grind .] theorem placed_option {α : Type} [Placeless α] (value : Option α) :
    Placed text value := fun _ _ => trivial

@[simp, grind .] theorem placed_list {α : Type} [Placeless α] (values : List α) :
    Placed text values := fun _ _ => trivial

@[simp, grind =] theorem placed_inl (left : α) :
    Placed text (.inl left : α ⊕ β) ↔ Placed text left := .rfl

@[simp, grind =] theorem placed_inr (right : β) :
    Placed text (.inr right : α ⊕ β) ↔ Placed text right := .rfl

end

/-- A state that remembers nothing but what has a place, and counts no more lines than end before
the line of its cursor starts. The cursor may stand anywhere. -/
structure State.Sound (text : Array Char) (state : State) : Prop where
  source : state.source = text
  line_pos : 1 ≤ state.cursor.line
  line_le : state.cursor.line ≤ lineNumber text state.cursor.lineStart
  lineStart : MayStartLine text state.cursor.lineStart
  lookahead : Placed text state.lookahead
  lastMarker : Placed text state.lastMarker
  startMarker : Placed text state.startMarker
  context : Placed text state.context
  tolerated : Placed text state.tolerated

/-- From a state, a step leaves behind a sound state of which something is true, or fails with what
has a place. -/
def Meets {α : Type} (text : Array Char) (step : Parse α) (state : State)
    (goal : α → State → Prop) : Prop :=
  match step state with
  | .ok value after => after.Sound text ∧ goal value after
  | .error failure after => Placed text failure ∧ Placed text after.tolerated

/-- A cursor within the text that is not before the start of its line. -/
def State.Inside (text : Array Char) (state : State) : Prop :=
  state.cursor.lineStart ≤ state.cursor.index ∧ state.cursor.index ≤ text.size

/-- A state between tokens. A sign that was read ahead starts on the line of the cursor, since no
line ends within a sign. -/
def State.Settled (text : Array Char) (state : State) : Prop :=
  state.Inside text ∧
    (state.lookahead.kind = .sign → state.cursor.lineStart ≤ state.startMarker.index)

/-- What a step hands out has a place, and the state is settled. -/
def Kept {α : Type} [Placeable α] (text : Array Char) (value : α) (after : State) : Prop :=
  after.Settled text ∧ Placed text value

@[grind =] theorem kept_iff {α : Type} [Placeable α] {text : Array Char} {value : α}
    {after : State} :
    Kept text value after ↔ after.Settled text ∧ Placed text value := .rfl

/-- A step that takes sound states to sound states and hands out nothing but what has a place. -/
def Keeps {α : Type} [Placeable α] (text : Array Char) (step : Parse α) : Prop :=
  ∀ state : State, state.Sound text → state.Settled text → Meets text step state (Kept text)

variable {text : Array Char} {α β : Type} {state : State}

namespace Meets

/-- A step that reaches its goal reaches weaker ones. -/
theorem mono {step : Parse α} {goal weaker : α → State → Prop} (meets : Meets text step state goal)
    (weaken : ∀ value after, goal value after → weaker value after) :
    Meets text step state weaker := by
  unfold Meets at meets ⊢
  cases result : step state with
  | ok value after =>
      rw [result] at meets
      exact ⟨meets.1, weaken value after meets.2⟩
  | error failure after =>
      rw [result] at meets
      exact meets

/-- A step goes on from whatever the step before it leaves behind. -/
theorem bind {step : Parse α} {next : α → Parse β} {middle : α → State → Prop}
    {goal : β → State → Prop} (first : Meets text step state middle)
    (rest : ∀ value after, after.Sound text → middle value after →
      Meets text (next value) after goal) : Meets text (step >>= next) state goal := by
  unfold Meets at first ⊢
  show match EStateM.bind step next state with
    | .ok value after => _
    | .error failure after => _
  unfold EStateM.bind
  cases result : step state with
  | ok value after =>
      rw [result] at first
      exact rest value after first.1 first.2
  | error failure after =>
      rw [result] at first
      exact first

/-- A step that only looks at the state or changes it, followed by another one. -/
theorem bind_of_eq {step : Parse α} {next : α → Parse β} {goal : β → State → Prop} {value : α}
    {after : State} (ran : step state = .ok value after) :
    Meets text (step >>= next) state goal ↔ Meets text (next value) after goal := by
  have both : (step >>= next) state = next value after := by
    show EStateM.bind step next state = _
    simp only [EStateM.bind, ran]
  unfold Meets
  rw [both]

theorem pure_iff {value : α} {goal : α → State → Prop} :
    Meets text (pure value) state goal ↔ state.Sound text ∧ goal value state := .rfl

end Meets

end ScriptCheck.Modern
