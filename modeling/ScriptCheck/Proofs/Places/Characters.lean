import Mathlib.Data.Bool.Basic
import ScriptCheck.Modern.PatternLiteral
import ScriptCheck.Proofs.Places.Basic

/-!
# Places while characters are read

Readers of characters leave the tokens alone that the state remembers. Most of them stay on the line
of the cursor, which is what `Reads` says; `Passes` is said of those that may come to other lines.
They go back only to where they were on the same line, so the cursor never stands before the start
of its line, and no line end is counted twice.
-/

namespace ScriptCheck.Modern

open ScriptCheck.Grammar

variable {text : Array Char} {α β γ : Type} {state : State}

/-- The character at an index. Behind the source there are null characters. -/
def State.characterAt (state : State) (index : Nat) : Char := state.source[index]?.getD '\x00'

/-- The state with its cursor at another index. -/
def State.movedTo (state : State) (index : Nat) : State :=
  { state with cursor := { state.cursor with index } }

@[simp, grind norm] theorem State.movedTo_source (index : Nat) :
    (state.movedTo index).source = state.source := rfl

@[simp, grind norm] theorem State.movedTo_index (index : Nat) :
    (state.movedTo index).cursor.index = index := rfl

@[simp, grind norm] theorem State.movedTo_lineStart (index : Nat) :
    (state.movedTo index).cursor.lineStart = state.cursor.lineStart := rfl

@[simp, grind norm] theorem State.movedTo_lookahead (index : Nat) :
    (state.movedTo index).lookahead = state.lookahead := rfl

@[simp, grind norm] theorem State.movedTo_startMarker (index : Nat) :
    (state.movedTo index).startMarker = state.startMarker := rfl

@[simp, grind norm] theorem State.movedTo_characterAt (index other : Nat) :
    (state.movedTo index).characterAt other = state.characterAt other := rfl

/-- Where the cursor stands makes no difference to what a state remembers. -/
@[simp, grind norm] theorem State.movedTo_sound (index : Nat) :
    (state.movedTo index).Sound text ↔ state.Sound text := by
  constructor <;> intro sound <;> exact { sound with }

/-- The state with other open braces. -/
def State.nested (state : State) (braces : List Brace) : State := { state with braces }

@[simp, grind norm] theorem State.nested_cursor (braces : List Brace) :
    (state.nested braces).cursor = state.cursor := rfl

@[simp, grind norm] theorem State.nested_lookahead (braces : List Brace) :
    (state.nested braces).lookahead = state.lookahead := rfl

@[simp, grind norm] theorem State.nested_startMarker (braces : List Brace) :
    (state.nested braces).startMarker = state.startMarker := rfl

/-- Which braces are open makes no difference to what a state remembers. -/
@[simp, grind norm] theorem State.nested_sound (braces : List Brace) :
    (state.nested braces).Sound text ↔ state.Sound text := by
  constructor <;> intro sound <;> exact { sound with }

/-- The state with one more tolerated problem. -/
def State.tolerating (state : State) (problem : Problem) : State :=
  { state with tolerated := problem :: state.tolerated }

@[simp, grind norm] theorem State.tolerating_cursor (problem : Problem) :
    (state.tolerating problem).cursor = state.cursor := rfl

@[simp, grind norm] theorem State.tolerating_lookahead (problem : Problem) :
    (state.tolerating problem).lookahead = state.lookahead := rfl

@[simp, grind norm] theorem State.tolerating_startMarker (problem : Problem) :
    (state.tolerating problem).startMarker = state.startMarker := rfl

/-- A problem with a place can be tolerated. -/
@[grind ←] theorem State.Sound.tolerating (sound : state.Sound text) {problem : Problem}
    (placed : Placed text problem) : (state.tolerating problem).Sound text :=
  { sound with tolerated := (placed_cons _ _).2 ⟨placed, sound.tolerated⟩ }

/-- A character that is not null stands within the source. -/
@[grind →] theorem State.Sound.index_lt (sound : state.Sound text) {index : Nat}
    (found : state.characterAt index ≠ '\x00') : index < text.size := by
  unfold State.characterAt at found
  rw [sound.source] at found
  rcases Nat.lt_or_ge index text.size with inside | outside
  · exact inside
  · simp [Array.getElem?_eq_none outside] at found

/-- A line end stands within the source. -/
@[grind →] theorem State.Sound.hasLineEnd (sound : state.Sound text) {index : Nat}
    (found : isLineEnd (state.characterAt index) = true) : HasLineEnd text ∧ index < text.size := by
  have notNull : state.characterAt index ≠ '\x00' := by
    intro null
    rw [null] at found
    exact absurd found (by decide)
  have inside := sound.index_lt notNull
  refine ⟨⟨state.characterAt index, ?_, found⟩, inside⟩
  unfold State.characterAt
  rw [sound.source, Array.getElem?_eq_getElem inside]
  exact Array.getElem_mem inside

/-- The line of the cursor is one of the source. -/
theorem State.Sound.isLine (sound : state.Sound text) : IsLine text state.cursor.line :=
  ⟨sound.line_pos, Nat.le_trans sound.line_le lineNumber_le_size⟩

/-- A problem at a cursor has a place, unless the cursor is far behind the end. -/
@[grind ←] theorem State.Sound.problemAtCursor (sound : state.Sound text)
    (near : state.cursor.index ≤ text.size + 1) (complaint : Complaint) :
    Placed text (state.problemAtCursor complaint) := by
  obtain ⟨within, start⟩ := sound.lineStart
  simp only [placed_problem, State.problemAtCursor, State.cursorColumn]
  refine ⟨sound.isLine, by omega, by omega, ?_⟩
  rcases start with first | several
  · left
    omega
  · exact .inr several

namespace Meets

variable {goal : β → State → Prop}

@[grind norm] theorem ite_iff {condition : Prop} [Decidable condition] {first second : Parse β} :
    Meets text (if condition then first else second) state goal ↔
      if condition then Meets text first state goal else Meets text second state goal := by
  split <;> rfl

@[grind norm] theorem return_bind {value : α} {next : α → Parse β} :
    Meets text (pure value >>= next) state goal ↔ Meets text (next value) state goal :=
  bind_of_eq rfl

@[grind norm] theorem atEnd_bind {next : Bool → Parse β} :
    Meets text (atEnd >>= next) state goal ↔
      Meets text (next (decide (state.source.size ≤ state.cursor.index))) state goal :=
  bind_of_eq rfl

@[grind norm] theorem getCursor_bind {next : Cursor → Parse β} :
    Meets text (getCursor >>= next) state goal ↔ Meets text (next state.cursor) state goal :=
  bind_of_eq rfl

@[grind norm] theorem get_bind {next : State → Parse β} :
    Meets text (get >>= next) state goal ↔ Meets text (next state) state goal :=
  bind_of_eq rfl

@[grind norm] theorem peekAt_bind {distance : Nat} {next : Char → Parse β} :
    Meets text (peekAt distance >>= next) state goal ↔
      Meets text (next (state.characterAt (state.cursor.index + distance))) state goal := by
  have source : Reading.source Failure state = state.source := rfl
  unfold peekAt State.characterAt
  rw [bind_assoc, get_bind, bind_assoc, getCursor_bind, source]
  cases state.source[state.cursor.index + distance]? with
  | none => exact return_bind
  | some character => exact return_bind

@[grind norm] theorem peek_bind {next : Char → Parse β} :
    Meets text (peek >>= next) state goal ↔
      Meets text (next (state.characterAt state.cursor.index)) state goal :=
  peekAt_bind

@[grind norm] theorem moveTo_bind {index : Nat} {next : Unit → Parse β} :
    Meets text (moveTo index >>= next) state goal ↔
      Meets text (next ()) (state.movedTo index) goal :=
  bind_of_eq rfl

@[grind =] theorem moveTo_iff {index : Nat} {goal : Unit → State → Prop} :
    Meets text (moveTo index) state goal ↔
      (state.movedTo index).Sound text ∧ goal () (state.movedTo index) := .rfl

@[grind norm] theorem advance_bind {distance : Nat} {next : Unit → Parse β} :
    Meets text (advance distance >>= next) state goal ↔
      Meets text (next ()) (state.movedTo (state.cursor.index + distance)) goal :=
  bind_of_eq rfl

@[grind norm] theorem take_bind {next : Char → Parse β} :
    Meets text (Grammar.take >>= next) state goal ↔
      Meets text (next (state.characterAt state.cursor.index))
        (state.movedTo (state.cursor.index + 1)) goal := by
  unfold Grammar.take
  simp only [bind_assoc, pure_bind, peek_bind, advance_bind]

@[grind norm] theorem slice_bind {start stop : Nat} {next : List Char → Parse β} :
    Meets text (slice start stop >>= next) state goal ↔
      Meets text (next (state.source.extract start stop).toList) state goal :=
  bind_of_eq rfl

@[grind norm] theorem getBraces_bind {next : List Brace → Parse β} :
    Meets text (getBraces >>= next) state goal ↔ Meets text (next state.braces) state goal :=
  bind_of_eq rfl

@[grind norm] theorem getLimits_bind {next : Limits → Parse β} :
    Meets text (getLimits >>= next) state goal ↔ Meets text (next state.limits) state goal :=
  bind_of_eq rfl

@[grind norm] theorem openBrace_bind {brace : Brace} {next : Unit → Parse β} :
    Meets text (openBrace brace >>= next) state goal ↔
      Meets text (next ()) (state.nested (brace :: state.braces)) goal :=
  bind_of_eq rfl

@[grind norm] theorem closeBrace_bind {next : Unit → Parse β} :
    Meets text (closeBrace >>= next) state goal ↔
      Meets text (next ()) (state.nested state.braces.tail) goal :=
  bind_of_eq rfl

/-- A problem with a place is logged, or ends the run. -/
theorem tolerate {problem : Problem} {goal : Unit → State → Prop} (sound : state.Sound text)
    (placed : Placed text problem) (logged : goal () (state.tolerating problem)) :
    Meets text (Modern.tolerate problem) state goal := by
  unfold Modern.tolerate
  refine get_bind.2 ?_
  split
  · exact ⟨sound.tolerating placed, logged⟩
  · exact ⟨placed, sound.tolerated⟩

@[grind ←] theorem tolerateAtCursor_bind {complaint : Complaint} {next : Unit → Parse β}
    (sound : state.Sound text) (near : state.cursor.index ≤ text.size + 1)
    (rest : Meets text (next ()) (state.tolerating (state.problemAtCursor complaint)) goal) :
    Meets text (tolerateAtCursor complaint >>= next) state goal := by
  have logged : Meets text (tolerateAtCursor complaint) state fun _ after =>
      after = state.tolerating (state.problemAtCursor complaint) :=
    get_bind.2 (tolerate sound (sound.problemAtCursor near complaint) rfl)
  refine logged.bind ?_
  rintro _ _ - rfl
  exact rest

attribute [grind =] pure_iff

/-- A complaint at a cursor that is not far behind the end has a place. -/
@[grind ←] theorem failAtCursor (sound : state.Sound text)
    (near : state.cursor.index ≤ text.size + 1) (complaint : Complaint) :
    Meets text (Grammar.failAtCursor complaint) state goal :=
  ⟨sound.problemAtCursor near complaint, sound.tolerated⟩

@[grind ←] theorem failAtCursor_bind {next : α → Parse β} (sound : state.Sound text)
    (near : state.cursor.index ≤ text.size + 1) (complaint : Complaint) :
    Meets text (Grammar.failAtCursor complaint >>= next) state goal :=
  ⟨sound.problemAtCursor near complaint, sound.tolerated⟩

/-- A loop keeps an invariant turn by turn. While it does, the cursor is not far behind the end. -/
theorem iterate {start : γ} {step : γ → Parse (γ ⊕ β)} (keep : γ → State → Prop)
    (sound : state.Sound text) (first : keep start state)
    (near : ∀ value state, keep value state → state.cursor.index ≤ text.size + 1)
    (turn : ∀ value state, state.Sound text → keep value state →
      Meets text (step value) state fun found after =>
        (∀ next, found = .inl next → keep next after) ∧
        ∀ answer, found = .inr answer → goal answer after) :
    Meets text (Grammar.iterate start step) state goal := by
  suffices turns : ∀ (count : Nat) (value : γ) (state : State), state.Sound text →
      keep value state → Meets text (untilDone step count value) state goal by
    exact (bind_of_eq rfl).2 (turns _ start state sound first)
  intro count
  induction count with
  | zero =>
      intro value state sound kept
      exact failAtCursor sound (near value state kept) _
  | succ count inductionHypothesis =>
      intro value state sound kept
      refine bind (turn value state sound kept) fun found after afterSound reached => ?_
      cases found with
      | inl next => exact inductionHypothesis next after afterSound (reached.1 next rfl)
      | inr answer => exact ⟨afterSound, reached.2 answer rfl⟩

/-- A loop with an invariant, followed by another step. -/
theorem iterate_bind {δ : Type} {start : γ} {step : γ → Parse (γ ⊕ δ)} {next : δ → Parse β}
    (keep : γ → State → Prop) (done : δ → State → Prop)
    (sound : state.Sound text) (first : keep start state)
    (near : ∀ value state, keep value state → state.cursor.index ≤ text.size + 1)
    (turn : ∀ value state, state.Sound text → keep value state →
      Meets text (step value) state fun found after =>
        (∀ next, found = .inl next → keep next after) ∧
        ∀ answer, found = .inr answer → done answer after)
    (rest : ∀ answer after, after.Sound text → done answer after →
      Meets text (next answer) after goal) :
    Meets text (Grammar.iterate start step >>= next) state goal :=
  bind (iterate keep sound first near turn) rest

end Meets

/-- The tokens that a state remembers are those of another state. -/
def State.SameTokens (before after : State) : Prop :=
  after.lookahead = before.lookahead ∧ after.startMarker = before.startMarker

/-- From one state to another the cursor goes on within its line, and within the text. -/
def State.Ahead (text : Array Char) (before after : State) : Prop :=
  before.SameTokens after ∧ after.cursor.lineStart = before.cursor.lineStart ∧
    before.cursor.index ≤ after.cursor.index ∧ after.cursor.index ≤ text.size

/-- From one state to another the cursor stays within the text, perhaps on another line. -/
def State.Beyond (text : Array Char) (before after : State) : Prop :=
  before.SameTokens after ∧ after.Inside text

/-- Likewise, but the cursor may stand one character too far. -/
def State.Near (text : Array Char) (before after : State) : Prop :=
  before.SameTokens after ∧ after.cursor.lineStart ≤ after.cursor.index ∧
    after.cursor.index ≤ text.size + 1

-- Between characters all of this is looked into; between tokens nothing is.
attribute [local grind =] State.SameTokens State.Ahead State.Beyond State.Near State.Inside

/-- A step that reads on within a line. -/
def Reads {α : Type} [Placeable α] (text : Array Char) (step : Parse α) : Prop :=
  ∀ state : State, state.Sound text → state.cursor.index ≤ text.size →
    Meets text step state fun value after => state.Ahead text after ∧ Placed text value

/-- A step that reads on, perhaps over line ends. -/
def Passes {α : Type} [Placeable α] (text : Array Char) (step : Parse α) : Prop :=
  ∀ state : State, state.Sound text → state.Inside text →
    Meets text step state fun value after => state.Beyond text after ∧ Placed text value

namespace Reads

variable [Placeable α] [Placeable β]

/-- What is true of everything ahead is true where a reader comes to. -/
theorem meets {step : Parse α} {goal : α → State → Prop} (reads : Reads text step)
    (sound : state.Sound text) (within : state.cursor.index ≤ text.size)
    (reach : ∀ value after, state.Ahead text after → Placed text value → goal value after) :
    Meets text step state goal :=
  (reads state sound within).mono fun value after reached => reach value after reached.1 reached.2

/-- A reader within a line, followed by another step. -/
theorem meets_bind {step : Parse α} {next : α → Parse γ} {goal : γ → State → Prop}
    (reads : Reads text step) (sound : state.Sound text)
    (within : state.cursor.index ≤ text.size)
    (rest : ∀ value after, after.Sound text → state.Ahead text after → Placed text value →
      Meets text (next value) after goal) : Meets text (step >>= next) state goal :=
  (reads state sound within).bind fun value after sound reached =>
    rest value after sound reached.1 reached.2

theorem pure {value : α} (placed : Placed text value) : Reads text (Pure.pure value : Parse α) :=
  fun _ sound within => ⟨sound, ⟨⟨rfl, rfl⟩, rfl, Nat.le_refl _, within⟩, placed⟩

theorem bind {step : Parse α} {next : α → Parse β} (first : Reads text step)
    (rest : ∀ value, Placed text value → Reads text (next value)) : Reads text (step >>= next) := by
  intro state sound within
  refine first.meets_bind sound within fun value middle sound ahead placed => ?_
  refine (rest value placed).meets sound ahead.2.2.2 ?_
  grind

/-- A loop reads on within a line if each of its turns does. -/
theorem iterate {start : α} {step : α → Parse (α ⊕ β)} (placed : Placed text start)
    (turn : ∀ value, Placed text value → Reads text (step value)) :
    Reads text (Grammar.iterate start step) := by
  intro state sound within
  refine Meets.iterate (fun value after => state.Ahead text after ∧ Placed text value) sound
    (by grind) (by grind) ?_
  intro value middle sound kept
  refine (turn value kept.2).meets sound kept.1.2.2.2 ?_
  grind

/-- Who stays on a line stays within the text. -/
theorem passes {step : Parse α} (reads : Reads text step) : Passes text step := by
  intro state sound inside
  exact reads.meets sound inside.2 (by grind)

end Reads

namespace Passes

variable [Placeable α] [Placeable β]

theorem meets {step : Parse α} {goal : α → State → Prop} (passes : Passes text step)
    (sound : state.Sound text) (inside : state.Inside text)
    (reach : ∀ value after, state.Beyond text after → Placed text value → goal value after) :
    Meets text step state goal :=
  (passes state sound inside).mono fun value after reached => reach value after reached.1 reached.2

/-- A reader over lines, followed by another step. -/
theorem meets_bind {step : Parse α} {next : α → Parse γ} {goal : γ → State → Prop}
    (passes : Passes text step) (sound : state.Sound text) (inside : state.Inside text)
    (rest : ∀ value after, after.Sound text → state.Beyond text after → Placed text value →
      Meets text (next value) after goal) : Meets text (step >>= next) state goal :=
  (passes state sound inside).bind fun value after sound reached =>
    rest value after sound reached.1 reached.2

/-- A loop reads on if each of its turns does. -/
theorem iterate {start : α} {step : α → Parse (α ⊕ β)} (placed : Placed text start)
    (turn : ∀ value, Placed text value → Passes text (step value)) :
    Passes text (Grammar.iterate start step) := by
  intro state sound inside
  refine Meets.iterate (fun value after => state.Beyond text after ∧ Placed text value) sound
    (by grind) (by grind) ?_
  intro value middle sound kept
  refine (turn value kept.2).meets sound kept.1.2 ?_
  grind

end Passes

attribute [grind →] State.Sound.source
attribute [local grind ←] Reads.meets Reads.meets_bind Reads.passes Passes.meets Passes.meets_bind

/-- A character that is not null is the one of the text. -/
theorem State.Sound.getElem?_eq (sound : state.Sound text) {index : Nat}
    (within : index < text.size) :
    text[index]? = some (state.characterAt index) := by
  unfold State.characterAt
  rw [sound.source, Array.getElem?_eq_getElem within, Option.getD_some]

/-- A line ends with a line end, or with a line feed behind a carriage return. -/
theorem State.Sound.endsLine_of_isLineEnd (sound : state.Sound text) {index : Nat}
    (isEnd : isLineEnd (state.characterAt index) = true) :
    if state.characterAt index = '\r' ∧ state.characterAt (index + 1) = '\n' then
      endsLine text (index + 1) = true ∧ index + 1 < text.size
    else endsLine text index = true := by
  have within := (sound.hasLineEnd isEnd).2
  split
  next both =>
    have within : index + 1 < text.size := sound.index_lt (by simp [both.2])
    refine ⟨?_, within⟩
    simp [Grammar.endsLine, sound.getElem?_eq within, both.2, isLineEnd]
  next single =>
    simp only [Grammar.endsLine, sound.getElem?_eq within, isEnd, Bool.true_and]
    by_cases isReturn : state.characterAt index = '\r'
    · have noFeed : text[index + 1]? ≠ some '\n' := by
        intro feed
        refine single ⟨isReturn, ?_⟩
        rw [State.characterAt, sound.source, feed, Option.getD_some]
      simp [noFeed]
    · simp [isReturn]

/-- The state with its cursor at the start of another line. -/
def State.onNextLine (state : State) : State :=
  { state with cursor := ⟨state.cursor.index, state.cursor.line + 1, state.cursor.index⟩ }

/-- Behind the end of a line another one is counted. -/
theorem State.Sound.onNextLine {index : Nat} (sound : state.Sound text)
    (several : HasLineEnd text) (within : index < text.size)
    (stands : state.cursor.index = index + 1) (behind : state.cursor.lineStart ≤ index)
    (ends : endsLine text index = true) : state.onNextLine.Sound text := by
  have counted := lineNumber_lt behind ends
  have line_le := sound.line_le
  refine { sound with
    line_pos := Nat.le_add_left 1 _
    line_le := ?_
    lineStart := ⟨?_, .inr several⟩ }
  · simp only [State.onNextLine, stands]
    omega
  · simp only [State.onNextLine, stands]
    omega

/-- Behind a line end the line of the cursor ends, and another one starts. -/
theorem meets_endLine {lineEnd : Char} (sound : state.Sound text)
    (isEnd : isLineEnd lineEnd = true)
    (stands : state.characterAt (state.cursor.index - 1) = lineEnd)
    (behind : state.cursor.lineStart < state.cursor.index) :
    Meets text (endLine lineEnd) state fun _ after => state.Beyond text after := by
  obtain ⟨index, found⟩ : ∃ index, state.cursor.index = index + 1 :=
    Nat.exists_eq_add_one.2 (Nat.zero_lt_of_lt behind)
  rw [found, Nat.add_sub_cancel] at stands
  subst stands
  obtain ⟨several, within⟩ := sound.hasLineEnd isEnd
  have ends := sound.endsLine_of_isLineEnd isEnd
  have ended (after : State) (afterSound : after.Sound text) (last : Nat)
      (ends : endsLine text last = true) (inside : last < text.size)
      (reached : after.cursor.index = last + 1) (same : state.SameTokens after)
      (started : after.cursor.lineStart ≤ last) :
      Meets text (do
        let cursor ← getCursor
        setCursor ⟨cursor.index, cursor.line + 1, cursor.index⟩) after
          fun _ after => state.Beyond text after := by
    refine ⟨afterSound.onNextLine several inside reached started ends, same, Nat.le_refl _, ?_⟩
    show after.cursor.index ≤ text.size
    omega
  unfold endLine
  refine Meets.peek_bind.2 ?_
  dsimp only
  rw [found]
  split
  next both =>
    rw [if_pos both] at ends
    refine Meets.advance_bind.2 (ended _ ?_ (index + 1) ends.1 ends.2 ?_ ⟨rfl, rfl⟩ ?_) <;> grind
  next single =>
    rw [if_neg single] at ends
    refine ended state sound index ends within found ⟨rfl, rfl⟩ ?_
    omega

/-- A line end that was read is followed by another step. -/
theorem meets_endLine_bind {lineEnd : Char} {next : Unit → Parse β}
    {goal : β → State → Prop} (sound : state.Sound text) (isEnd : isLineEnd lineEnd = true)
    (stands : state.characterAt (state.cursor.index - 1) = lineEnd)
    (behind : state.cursor.lineStart < state.cursor.index)
    (rest : ∀ after, after.Sound text → state.Beyond text after → Meets text (next ()) after goal) :
    Meets text (endLine lineEnd >>= next) state goal :=
  (meets_endLine sound isEnd stands behind).bind fun _ after sound beyond => rest after sound beyond

attribute [local grind ←] meets_endLine_bind

@[grind .] theorem reads_takeWhile (condition : Char → Bool) :
    Reads text (takeWhile condition) := by
  intro state sound within
  have turns : Reads text (Grammar.iterate ([] : List Char) fun taken => do
      if ← atEnd then return .inr taken
      let character ← peek
      if condition character then
        advance 1
        return .inl (character :: taken)
      return .inr taken) := by
    refine .iterate (placed_list _) fun _ _ state sound within => ?_
    grind
  unfold takeWhile
  grind

@[grind .] theorem passes_skipLine : Passes text skipLine := by
  refine .iterate (placed_placeless _) fun _ _ state sound inside => ?_
  grind

@[grind ←] theorem passes_skipBlockComment {unclosed : Parse Unit} (passes : Passes text unclosed) :
    Passes text (skipBlockComment unclosed) := by
  refine .iterate (placed_placeless _) fun _ _ state sound inside => ?_
  grind

@[grind ←] theorem passes_skipGap (markup : Bool) {unclosed : Parse Unit}
    (passes : Passes text unclosed) : Passes text (skipGap markup unclosed) := by
  intro state sound inside
  unfold skipGap
  refine Meets.getCursor_bind.2 (Passes.iterate (placed_placeless _) ?_ state sound inside)
  intro lineIsBlank _ state sound inside
  grind

@[grind .] theorem reads_hexEscape (count value : Nat) : Reads text (hexEscape count value) := by
  induction count generalizing value with
  | zero => exact .pure (placed_option _)
  | succ count inductionHypothesis =>
      intro state sound within
      unfold hexEscape
      refine Meets.atEnd_bind.2 ?_
      split
      · grind
      · refine Meets.peek_bind.2 ?_
        split
        · grind
        · refine Meets.advance_bind.2 ((inductionHypothesis _).meets ?_ ?_ ?_) <;> grind

@[grind .] theorem reads_bracedEscape : Reads text bracedEscape := by
  intro state sound within
  unfold bracedEscape
  refine Meets.peek_bind.2 ?_
  dsimp only
  split
  · grind
  · refine Reads.meets_bind (.iterate (placed_placeless _) fun value _ state sound within => ?_)
      sound within (by grind)
    refine Meets.atEnd_bind.2 ?_
    split
    · grind
    · refine Meets.take_bind.2 ?_
      split <;> grind

@[grind .] theorem reads_octalEscape (first : Char) : Reads text (octalEscape first) := by
  intro state sound within
  unfold octalEscape
  grind

@[grind .] theorem reads_endNumeral (refused : Char → Bool) : Reads text (endNumeral refused) := by
  intro state sound within
  unfold endNumeral
  grind

namespace Meets

/-- A token ends at the cursor. -/
@[grind norm] theorem tokenFrom_bind {kind : TokenKind} {value : String} {start : Nat}
    {next : Token → Parse β} {goal : β → State → Prop} :
    Meets text (tokenFrom kind value start >>= next) state goal ↔
      Meets text
        (next { kind, value, line := state.cursor.line, start, stop := state.cursor.index })
        state goal :=
  bind_of_eq rfl

end Meets

@[grind ←] theorem reads_tokenFrom (kind : TokenKind) (value : String) {start : Nat}
    (begins : start ≤ text.size) : Reads text (tokenFrom kind value start) := by
  intro state sound within
  have line := sound.isLine
  unfold tokenFrom
  grind [placed_token]

@[grind ←] theorem reads_wordFrom (kind : TokenKind) (codes : List Nat) {start : Nat}
    (begins : start ≤ text.size) : Reads text (wordFrom kind codes start) := by
  unfold wordFrom
  refine (reads_tokenFrom kind _ begins).bind fun token placed => .pure ?_
  grind [placed_token]

@[grind ←] theorem reads_readRadix (base : Nat) (isDigit refused : Char → Bool) {start : Nat}
    (begins : start ≤ text.size) : Reads text (readRadix base isDigit refused start) := by
  unfold readRadix
  refine (reads_takeWhile isDigit).bind fun digits _ => ?_
  dsimp only
  split
  · exact fun state sound within => by grind
  · exact (reads_endNumeral refused).bind fun _ _ => reads_tokenFrom _ _ begins

@[grind ←] theorem reads_readDecimal (startsName : Char → Bool) {start : Nat}
    (begins : start ≤ text.size) : Reads text (readDecimal startsName start) := by
  intro state sound within
  unfold readDecimal
  refine (reads_takeWhile _).meets_bind sound within fun whole state sound ahead _ =>
    Meets.peek_bind.2 ?_
  dsimp only
  split
  · refine Meets.advance_bind.2 ((reads_takeWhile _).meets_bind ?_ ?_
      fun fraction state sound ahead _ => ?_) <;> grind
  · grind

@[grind .] theorem reads_readNumber (startsName : Char → Bool) :
    Reads text (readNumber startsName) := by
  intro state sound within
  unfold readNumber
  grind [placed_token]

@[grind .] theorem passes_readPatternBody : Passes text readPatternBody := by
  intro state sound inside
  unfold readPatternBody
  refine Meets.advance_bind.2 (Meets.iterate_bind
    (fun _ after => state.Near text after)
    (fun found after => state.Near text after ∧
      (found.2 = true → after.cursor.index ≤ text.size)) ?_ ?_ ?_ ?_ ?_)
  · grind
  · grind
  · grind
  · rintro ⟨body, inClass⟩ state sound near
    grind
  · rintro ⟨body, closed⟩ after sound ⟨near, ended⟩
    grind

@[grind ←] theorem reads_fourDigitEscape (fits : Char → Bool) :
    Reads text (fourDigitEscape fits) := by
  intro state sound within
  unfold fourDigitEscape
  refine (reads_hexEscape 4 0).meets_bind sound within fun value after sound ahead _ => ?_
  split <;> grind

@[grind .] theorem reads_nameEscape (fits : Char → Bool) : Reads text (nameEscape fits) := by
  intro state sound within
  unfold nameEscape
  grind

section

variable {rules : NameRules Failure State} (escapes : ∀ fits, Reads text (rules.escape fits))

include escapes

/-- A name with escapes is read from a character on that is there. -/
theorem meets_readEscaped (sound : state.Sound text) (within : state.cursor.index < text.size) :
    Meets text rules.readEscaped state fun value after =>
      state.Ahead text after ∧ Placed text value := by
  have turns (opening : List Nat) : Reads text (Grammar.iterate opening fun codes => do
      if ← atEnd then return .inr codes
      let character ← peek
      if !rules.continues character then return .inr codes
      advance 1
      if character = '\\' then
        let code ← rules.escape rules.continues
        return .inl (code :: codes)
      return .inl (character.toNat :: codes)) := by
    have escape := escapes rules.continues
    refine .iterate (placed_list _) fun _ _ state sound within => ?_
    grind
  have escape := escapes rules.starts
  unfold NameRules.readEscaped
  refine Meets.take_bind.2 ?_
  dsimp only
  grind

/-- A name is read from a character on that is there. -/
theorem meets_readName (sound : state.Sound text) (within : state.cursor.index < text.size) :
    Meets text rules.read state fun value after =>
      state.Ahead text after ∧ Placed text value := by
  have again (after : State) (sound : after.Sound text)
      (ahead : state.Ahead text after) :
      Meets text (do
        moveTo state.cursor.index
        rules.readEscaped) after fun value after => state.Ahead text after ∧ Placed text value := by
    refine Meets.moveTo_bind.2 ((meets_readEscaped escapes ?_ ?_).mono ?_) <;> grind
  have escaped := meets_readEscaped escapes sound within
  unfold NameRules.read
  refine Meets.getCursor_bind.2 (Meets.peek_bind.2 ?_)
  split
  · exact escaped
  · refine Meets.advance_bind.2 ((reads_takeWhile _).meets_bind ?_ ?_
      fun rest after sound ahead _ => ?_)
    · grind
    · grind
    · have ahead : state.Ahead text after := by grind
      grind

end

@[grind .] theorem reads_tolerateAtCursor (complaint : Complaint) :
    Reads text (tolerateAtCursor complaint) := by
  intro state sound within
  have placed := sound.problemAtCursor (Nat.le_succ_of_le within) complaint
  exact Meets.get_bind.2
    (.tolerate sound placed ⟨⟨⟨rfl, rfl⟩, rfl, Nat.le_refl _, within⟩, trivial⟩)

/-- A word is read from a character on that is there. -/
theorem meets_readWord (sound : state.Sound text) (within : state.cursor.index < text.size) :
    Meets text readWord state fun token after => state.Ahead text after ∧ Placed text token := by
  unfold readWord
  refine Meets.getCursor_bind.2 ((meets_readName reads_nameEscape sound within).bind ?_)
  rintro codes after sound ⟨ahead, -⟩
  have begins : state.cursor.index ≤ text.size := Nat.le_of_lt within
  grind

theorem meets_failUnclosed (start : Nat) (begins : start ≤ text.size) (sound : state.Sound text) :
    Meets text (failUnclosed start) state fun _ _ => False := by
  unfold failUnclosed
  grind

/-- What a text of a script may contain: escapes may read one character too far at the end of the
source, where the text is not closed, which fails. -/
theorem meets_readText {escape : Parse (List Nat × Bool)} {unclosed : Nat → Parse Unit}
    (escapes : ∀ state : State, state.Sound text → state.Inside text →
      Meets text escape state fun _ after => state.Near text after)
    (fails : ∀ (start : Nat) (state : State), start ≤ text.size → state.Sound text →
      Meets text (unclosed start) state fun _ _ => False)
    (sound : state.Sound text) (inside : state.Inside text) :
    Meets text (readText escape unclosed) state fun token after =>
      state.Beyond text after ∧ Placed text token ∧ token.kind = .text := by
  have begins := inside.2
  unfold readText
  refine Meets.getCursor_bind.2 (Meets.take_bind.2 (Meets.iterate_bind
    (fun _ after => state.Near text after)
    (fun found after => state.Near text after ∧
      (found.2.2 = true → after.cursor.index ≤ text.size)) ?_ ?_ ?_ ?_ ?_))
  · grind
  · grind
  · grind
  · rintro ⟨codes, octal⟩ after sound near
    refine Meets.atEnd_bind.2 ?_
    split
    · grind
    · refine Meets.take_bind.2 ?_
      split
      · grind
      · split
        · refine (escapes _ ?_ ?_).bind ?_ <;> grind
        · grind
  · rintro ⟨codes, octal, closed⟩ after sound ⟨near, ended⟩
    dsimp only
    split
    · refine (fails _ _ begins sound).bind ?_
      grind
    · have line := sound.isLine
      grind [placed_token]

/-- A piece of a template, likewise. -/
theorem meets_readTemplate {escape : Parse Unit}
    (escapes : ∀ state : State, state.Sound text → state.Inside text →
      Meets text escape state fun _ after => state.Near text after)
    (sound : state.Sound text) (inside : state.Inside text) :
    Meets text (readTemplate escape) state fun token after =>
      state.Beyond text after ∧ Placed text token ∧ token.kind = .template := by
  have begins := inside.2
  unfold readTemplate
  refine Meets.getCursor_bind.2 (Meets.take_bind.2 (Meets.iterate_bind
    (fun _ after => state.Near text after)
    (fun found after => state.Near text after ∧
      (found ≠ .unfinished → after.cursor.index ≤ text.size)) ?_ ?_ ?_ ?_ ?_))
  · grind
  · grind
  · grind
  · intro _ after sound near
    refine Meets.atEnd_bind.2 ?_
    split
    · grind
    · refine Meets.take_bind.2 ?_
      split
      · grind
      · refine Meets.peek_bind.2 ?_
        split
        · grind
        · split
          · refine (escapes _ ?_ ?_).bind ?_ <;> grind
          · grind
  · intro ending after sound ⟨near, ended⟩
    dsimp only
    split
    · grind
    · have line := sound.isLine
      grind [placed_token]

/-- An escape in a text may read one character too far. -/
theorem meets_textEscape (sound : state.Sound text) (inside : state.Inside text) :
    Meets text textEscape state fun _ after => state.Near text after := by
  unfold textEscape
  refine Meets.take_bind.2 ?_
  dsimp only
  split
  · grind
  · split
    · refine Meets.peek_bind.2 ?_
      split
      · grind
      · refine (reads_hexEscape 4 0).meets_bind ?_ ?_ ?_
        · grind
        · grind
        · intro code after sound ahead _
          split <;> grind
    · split
      · refine (reads_hexEscape 2 0).meets_bind ?_ ?_ ?_
        · grind
        · grind
        · intro code after sound ahead _
          split <;> grind
      · split
        · grind
        · split
          · grind
          · split
            · have notNull : state.characterAt state.cursor.index ≠ '\x00' := by
                intro null
                simp_all [Text.isOctalDigit]
              refine (reads_octalEscape _).meets_bind ?_ ?_ ?_ <;> grind
            · grind

/-- An escape in a template may read one character too far. -/
theorem meets_templateEscape (sound : state.Sound text) (inside : state.Inside text) :
    Meets text templateEscape state fun _ after => state.Near text after := by
  unfold templateEscape
  refine Meets.take_bind.2 ?_
  dsimp only
  split
  next isEnd =>
    refine (meets_endLine ?_ isEnd ?_ ?_).mono ?_ <;> grind
  · grind

/-- Signs are no longer than what stands there. -/
theorem length_signAt {longSigns : List String} {characters : List Char} {sign : String}
    (found : signAt longSigns characters = some sign) : sign.length ≤ characters.length := by
  unfold signAt at found
  split at found
  next long isFound =>
    cases found
    have stands := List.find?_some isFound
    rw [← String.length_toList]
    exact (List.isPrefixOf_iff_prefix.1 stands).length_le
  next =>
    split at found
    · cases found
    · split at found
      · cases found
        simp
      · cases found

@[grind .] theorem reads_readSign (longSigns : List String) : Reads text (readSign longSigns) := by
  intro state sound within
  unfold readSign
  refine Meets.getCursor_bind.2 (Meets.slice_bind.2 ?_)
  split
  next sign found =>
    have short : state.cursor.index + sign.length ≤ text.size := by
      have length_le := length_signAt found
      rw [sound.source, Array.length_toList, Array.size_extract] at length_le
      omega
    grind
  · grind

@[grind .] theorem passes_skipToToken : Passes text skipToToken := by
  intro state sound inside
  unfold skipToToken
  grind

/-- A token is read from where the cursor stands. No line ends within a sign. -/
theorem meets_readToken (sound : state.Sound text) (inside : state.Inside text) :
    Meets text readToken state fun token after => state.Beyond text after ∧ Placed text token ∧
      (token.kind = .sign → after.cursor.lineStart = state.cursor.lineStart) := by
  have within := inside.2
  have ofTemplate : Meets text (readTemplate templateEscape) state fun token after =>
      state.Beyond text after ∧ Placed text token ∧ token.kind = .template :=
    meets_readTemplate (fun _ => meets_templateEscape) sound inside
  unfold readToken
  refine Meets.atEnd_bind.2 ?_
  split
  · grind
  · refine Meets.peek_bind.2 ?_
    split
    next => exact (meets_readWord sound (by grind)).mono (by grind)
    next =>
      split
      next =>
        have ofText := meets_readText (fun _ => meets_textEscape)
          (fun start _ begins sound => meets_failUnclosed start begins sound) sound inside
        exact ofText.mono (by grind)
      next =>
        split
        next => exact (reads_readNumber _).meets sound within (by grind)
        next =>
          refine Meets.peekAt_bind.2 ?_
          split
          next => exact (reads_readNumber _).meets sound within (by grind)
          next =>
            split
            next => exact ofTemplate.mono (by grind)
            next =>
              refine Meets.getBraces_bind.2 ?_
              split
              next => exact ofTemplate.mono (by grind)
              next => exact (reads_readSign _).meets sound within (by grind)

@[grind .] theorem reads_readPatternFlags : Reads text readPatternFlags := by
  refine .iterate (placed_placeless _) fun _ _ state sound within => ?_
  grind

@[grind .] theorem reads_tolerateTimes (complaint : Complaint) (count : Nat) :
    Reads text (tolerateTimes complaint count) := by
  induction count with
  | zero => exact .pure (placed_placeless _)
  | succ count inductionHypothesis =>
      exact (reads_tolerateAtCursor complaint).bind fun _ _ => inductionHypothesis

@[grind .] theorem reads_checkPattern (body : List Char) : Reads text (checkPattern body) := by
  unfold checkPattern
  refine (reads_tolerateTimes _ _).bind fun _ _ state sound within => Meets.getLimits_bind.2 ?_
  split
  · exact reads_tolerateAtCursor _ state sound within
  · exact Reads.pure (placed_placeless _) state sound within

@[grind .] theorem passes_readPattern : Passes text readPattern := by
  intro state sound inside
  unfold readPattern
  grind

end ScriptCheck.Modern
