import ScriptCheck.Modern.Stepping
import ScriptCheck.Proofs.Places.Characters

/-!
# Places while tokens are read

Between tokens a state is settled, and readers of tokens and phrases leave it so: `Keeps`. The slash
of a regular expression is read again from where the token ahead starts, which is on the line of the
cursor, since the token is a sign.
-/

namespace ScriptCheck.Modern

open ScriptCheck.Grammar

variable {text : Array Char} {α β : Type} {state : State}

/-- The state with what the code allows changed. -/
def State.allowing (state : State) (change : Context → Context) : State :=
  { state with context := change state.context }

@[simp, grind norm] theorem State.allowing_context (change : Context → Context) :
    (state.allowing change).context = change state.context := rfl

@[simp, grind norm] theorem State.allowing_lookahead (change : Context → Context) :
    (state.allowing change).lookahead = state.lookahead := rfl

@[grind ←] theorem State.Sound.allowing (sound : state.Sound text) {change : Context → Context}
    (placed : Placed text (change state.context).coverDefault) :
    (state.allowing change).Sound text :=
  { sound with context := placed }

/-- What the code allows makes no difference to where the cursor stands. -/
@[simp, grind norm] theorem State.allowing_settled (change : Context → Context) :
    (state.allowing change).Settled text ↔ state.Settled text := .rfl

/-- A step that keeps states sound, followed by another one. -/
@[grind ←] theorem Meets.keeps_bind [Placeable α] {step : Parse α} {next : α → Parse β}
    {goal : β → State → Prop} (keeps : Keeps text step) (sound : state.Sound text)
    (settled : state.Settled text)
    (rest : ∀ value after, after.Sound text → after.Settled text → Placed text value →
      Meets text (next value) after goal) : Meets text (step >>= next) state goal :=
  bind (keeps state sound settled) fun value after afterSound reached =>
    rest value after afterSound reached.1 reached.2

namespace Keeps

variable [Placeable α] [Placeable β]

@[grind ←] theorem kept {step : Parse α} (keeps : Keeps text step) (sound : state.Sound text)
    (settled : state.Settled text) : Meets text step state (Kept text) :=
  keeps state sound settled

theorem pure {value : α} (placed : Placed text value) :
    Keeps text (Pure.pure value : Parse α) :=
  fun _ sound settled => ⟨sound, settled, placed⟩

theorem bind {step : Parse α} {next : α → Parse β} (first : Keeps text step)
    (rest : ∀ value, Placed text value → Keeps text (next value)) : Keeps text (step >>= next) :=
  fun _ sound settled =>
    Meets.keeps_bind first sound settled fun value after sound settled placed =>
      rest value placed after sound settled

/-- A step that is one of two keeps states sound if both do. -/
theorem ite {condition : Prop} [Decidable condition] {first second : Parse α}
    (firstKeeps : Keeps text first) (secondKeeps : Keeps text second) :
    Keeps text (if condition then first else second) := by
  split
  · exact firstKeeps
  · exact secondKeeps

/-- A loop keeps states sound if each of its turns does. -/
theorem iterate {start : α} {step : α → Parse (α ⊕ β)} (placed : Placed text start)
    (turn : ∀ value, Placed text value → Keeps text (step value)) :
    Keeps text (Grammar.iterate start step) := by
  intro state sound settled
  refine Meets.iterate (fun value state => state.Settled text ∧ Placed text value)
    sound ⟨settled, placed⟩ (fun _ _ kept => Nat.le_succ_of_le kept.1.1.2) ?_
  intro value state sound kept
  refine (turn value kept.2 state sound kept.1).mono fun found after reached => ?_
  constructor
  · rintro next rfl
    exact reached
  · rintro answer rfl
    exact reached

end Keeps

namespace Meets

variable [Placeable α] [Placeable β] {start : α} {step : α → Parse (α ⊕ β)}

/-- A loop of turns that keep states sound. -/
@[grind ←] theorem iterate_kept (sound : state.Sound text) (settled : state.Settled text)
    (placed : Placed text start)
    (turn : ∀ value state, state.Sound text → state.Settled text → Placed text value →
      Meets text (step value) state (Kept text)) :
    Meets text (Grammar.iterate start step) state (Kept text) :=
  Keeps.iterate placed
    (fun value placed state sound settled => turn value state sound settled placed) state sound
    settled

/-- A loop of turns that keep states sound, followed by another step. -/
@[grind ←] theorem iterate_kept_bind {γ : Type} {next : β → Parse γ} {goal : γ → State → Prop}
    (sound : state.Sound text) (settled : state.Settled text) (placed : Placed text start)
    (turn : ∀ value state, state.Sound text → state.Settled text → Placed text value →
      Meets text (step value) state (Kept text))
    (rest : ∀ value after, after.Sound text → after.Settled text → Placed text value →
      Meets text (next value) after goal) :
    Meets text (Grammar.iterate start step >>= next) state goal :=
  bind (iterate_kept sound settled placed turn) fun answer after sound kept =>
    rest answer after sound kept.1 kept.2

end Meets

attribute [grind →] State.Sound.lookahead

@[grind →] theorem State.Sound.coverDefault (sound : state.Sound text) :
    Placed text state.context.coverDefault := sound.context

namespace Meets

variable {goal : β → State → Prop}

@[grind norm] theorem lookahead_bind {next : Token → Parse β} :
    Meets text (lookahead >>= next) state goal ↔ Meets text (next state.lookahead) state goal :=
  bind_of_eq rfl

@[grind norm] theorem getContext_bind {next : Context → Parse β} :
    Meets text (getContext >>= next) state goal ↔ Meets text (next state.context) state goal :=
  bind_of_eq rfl

@[grind norm] theorem setContext_bind {change : Context → Context} {next : Unit → Parse β} :
    Meets text (setContext change >>= next) state goal ↔
      Meets text (next ()) (state.allowing change) goal :=
  bind_of_eq rfl

@[grind norm] theorem isAtSign_bind {signs : List String} {next : Bool → Parse β} :
    Meets text (isAtSign signs >>= next) state goal ↔
      Meets text (next (state.lookahead.isSign signs)) state goal :=
  bind_of_eq rfl

@[grind norm] theorem isAtKeyword_bind {words : List String} {next : Bool → Parse β} :
    Meets text (isAtKeyword words >>= next) state goal ↔
      Meets text (next (state.lookahead.isKeyword words)) state goal :=
  bind_of_eq rfl

@[grind norm] theorem isAtName_bind {name : String} {next : Bool → Parse β} :
    Meets text (isAtName name >>= next) state goal ↔
      Meets text (next (state.lookahead.isNamed name)) state goal :=
  bind_of_eq rfl

@[grind norm] theorem isAtEndOfFile_bind {next : Bool → Parse β} :
    Meets text (isAtEndOfFile >>= next) state goal ↔
      Meets text (next (state.lookahead.kind == .endOfFile)) state goal :=
  bind_of_eq rfl

@[grind norm] theorem lineEnded_bind {next : Bool → Parse β} :
    Meets text (lineEnded >>= next) state goal ↔ Meets text (next state.lineEnded) state goal :=
  bind_of_eq rfl

@[grind =] theorem setContext_iff {change : Context → Context} {goal : Unit → State → Prop} :
    Meets text (setContext change) state goal ↔
      (state.allowing change).Sound text ∧ goal () (state.allowing change) := .rfl

theorem modify_bind {change : State → State} {next : Unit → Parse β} :
    Meets text (modify change >>= next) state goal ↔
      Meets text (next ()) (change state) goal :=
  bind_of_eq rfl

end Meets

namespace State.Sound

variable (sound : state.Sound text)

include sound

/-- The place of a cursor within the source is one for a marker. -/
theorem cursorMarker (within : state.cursor.index ≤ text.size) :
    Placed text state.cursorMarker :=
  ⟨sound.isLine, within, state.cursor.lineStart, rfl, sound.lineStart⟩

/-- A problem at a token has a place. -/
theorem problemAt {token : Token} (placed : Placed text token) (complaint : Complaint) :
    Placed text (state.problemAt token complaint) := by
  obtain ⟨-, -, lineStart, column, within, start⟩ := sound.lastMarker
  obtain ⟨line, begins⟩ := placed
  refine ⟨line, ?_, ?_, ?_⟩
  · simp only [State.problemAt]
    omega
  · simp only [State.problemAt]
    omega
  · rcases start with first | several
    · left
      simp only [State.problemAt]
      omega
    · exact .inr several

/-- A problem behind the last token has a place, on the line of that token or on that of the
cursor. -/
theorem problemBehind {line : Nat} (counted : IsLine text line) (complaint : Complaint) :
    Placed text (⟨line, state.lastMarker.column + 1, complaint⟩ : Problem) := by
  obtain ⟨-, within, lineStart, column, starts, start⟩ := sound.lastMarker
  refine ⟨counted, ?_, ?_, ?_⟩
  · simp only
    omega
  · simp only
    omega
  · rcases start with first | several
    · left
      simp only
      omega
    · exact .inr several

end State.Sound

@[grind ←] theorem keeps_setContext {change : Context → Context}
    (placed : ∀ context, Placed text context → Placed text (change context)) :
    Keeps text (setContext change) :=
  fun _ sound settled => ⟨{ sound with context := placed _ sound.context }, settled, trivial⟩

@[grind ←] theorem keeps_tolerate {problem : Problem} (placed : Placed text problem) :
    Keeps text (tolerate problem) :=
  fun _ sound settled => .tolerate sound placed ⟨settled, trivial⟩

@[grind ←] theorem keeps_failWith [Placeable α] {problem : Problem} (placed : Placed text problem) :
    Keeps text (failWith problem : Parse α) :=
  fun _ sound _ => ⟨placed, sound.tolerated⟩

/-- Failures without a place keep everything sound. -/
theorem keeps_throw [Placeable α] {failure : Failure} (placed : Placed text failure) :
    Keeps text (throw failure : Parse α) :=
  fun _ sound _ => ⟨placed, sound.tolerated⟩

/-- The state with the start of the token ahead put at its cursor. -/
def State.started (state : State) : State :=
  if state.cursor.index = state.startMarker.index then state
  else { state with startMarker := state.cursorMarker }

theorem State.started_cursor : state.started.cursor = state.cursor := by
  unfold State.started
  split <;> rfl

theorem State.started_startMarker : state.started.startMarker.index = state.cursor.index := by
  unfold State.started
  split
  next stands => exact stands.symm
  next => rfl

theorem State.Sound.started (sound : state.Sound text) (within : state.cursor.index ≤ text.size) :
    state.started.Sound text := by
  unfold State.started
  split
  next => exact sound
  next => exact { sound with startMarker := sound.cursorMarker within }

/-- A token is read from a state that need not be settled, and then it is. -/
theorem meets_nextToken (sound : state.Sound text) (inside : state.Inside text) :
    Meets text nextToken state (Kept text) := by
  have marked : { state with lastMarker := state.cursorMarker }.Sound text :=
    { sound with lastMarker := sound.cursorMarker inside.2 }
  unfold nextToken
  refine (Meets.bind_of_eq rfl).2 (Meets.modify_bind.2 (passes_skipToToken.meets_bind marked inside
    fun _ gapped gapSound gap _ => Meets.modify_bind.2 ?_))
  have startedInside : gapped.started.Inside text := by
    rw [State.Inside, State.started_cursor]
    exact gap.2
  refine (meets_readToken (gapSound.started gap.2.2) startedInside).bind ?_
  rintro next after afterSound ⟨⟨same, afterInside⟩, placed, onLine⟩
  refine Meets.modify_bind.2 ⟨?_, ⟨afterInside, fun isSign => ?_⟩, sound.lookahead⟩
  · refine { afterSound with lookahead := ?_ }
    dsimp only
    split
    · exact placed
    · exact placed
  · have isSign : next.kind = .sign := by
      dsimp only at isSign
      split at isSign
      · cases isSign
      · exact isSign
    have lineStart := onLine isSign
    have stands : gapped.started.startMarker.index = gapped.cursor.index :=
      State.started_startMarker
    rw [State.started_cursor] at lineStart
    show after.cursor.lineStart ≤ after.startMarker.index
    rw [same.2, stands, lineStart]
    exact gap.2.1

@[grind .] theorem keeps_nextToken : Keeps text nextToken :=
  fun _ sound settled => meets_nextToken sound settled.1

/-- To forget what a step hands out is a step behind it. -/
theorem discard_eq_bind (step : Parse α) :
    (discard step : Parse Unit) = step >>= fun _ => pure () := by
  rw [Functor.discard, map_const]
  exact map_eq_pure_bind _ _

@[grind ←] theorem keeps_discard [Placeable α] {step : Parse α} (keeps : Keeps text step) :
    Keeps text (discard step) := by
  rw [discard_eq_bind]
  exact keeps.bind fun _ _ => .pure trivial

theorem meets_skipToken (sound : state.Sound text) (inside : state.Inside text) :
    Meets text skipToken state (Kept text) := by
  rw [skipToken, discard_eq_bind]
  exact (meets_nextToken sound inside).bind fun _ _ sound kept => ⟨sound, kept.1, trivial⟩

@[grind .] theorem keeps_skipToken : Keeps text skipToken :=
  fun _ sound settled => meets_skipToken sound settled.1

@[grind .] theorem keeps_tokenBehind : Keeps text tokenBehind := by
  intro state sound settled
  unfold tokenBehind
  refine Meets.getCursor_bind.2 (passes_skipToToken.meets_bind sound settled.1
    fun _ gapped gapSound gap _ => (meets_readToken gapSound gap.2).bind ?_)
  rintro token after afterSound ⟨⟨same, -⟩, placed, -⟩
  have back : { after with cursor := state.cursor }.Sound text :=
    { afterSound with
      line_pos := sound.line_pos, line_le := sound.line_le, lineStart := sound.lineStart }
  refine (Meets.bind_of_eq rfl).2 (Meets.pure_iff.2 ⟨back, ⟨settled.1, ?_⟩, placed⟩)
  show after.lookahead.kind = .sign → state.cursor.lineStart ≤ after.startMarker.index
  rw [same.1, same.2, gap.1.1, gap.1.2]
  exact settled.2

/-- A regular expression is read where a sign is ahead. -/
@[grind ←] theorem meets_nextPattern (sound : state.Sound text) (settled : state.Settled text)
    (isSign : state.lookahead.kind = .sign) : Meets text nextPattern state (Kept text) := by
  have inside : (state.movedTo state.startMarker.index).Inside text :=
    ⟨settled.2 isSign, sound.startMarker.2.1⟩
  unfold nextPattern
  refine Meets.get_bind.2 (Meets.moveTo_bind.2 (passes_skipToToken.meets_bind
    ((State.movedTo_sound _).2 sound) inside fun _ _ sound gap _ =>
      passes_readPattern.meets_bind sound gap.2 fun token after sound read placed =>
        Meets.modify_bind.2 (meets_skipToken { sound with lookahead := placed } read.2)))

@[grind .] theorem keeps_requireShown (token : Token) : Keeps text (requireShown token) := by
  intro state sound settled
  unfold requireShown
  refine Meets.getLimits_bind.2 ?_
  have refused : Keeps text (throw Failure.longNumber : Parse Unit) := keeps_throw trivial
  split
  · exact refused state sound settled
  · exact Keeps.pure trivial state sound settled

@[grind ←] theorem keeps_problemAbout {token : Token} (placed : Placed text token)
    (complaint : Complaint) : Keeps text (problemAbout token complaint) := by
  unfold problemAbout
  refine (keeps_requireShown token).bind fun _ _ state sound settled => ?_
  exact ⟨sound, settled, sound.problemAt placed complaint⟩

@[grind .] theorem keeps_problemBehind (complaint : Complaint) :
    Keeps text (problemBehind complaint) :=
  fun _ sound settled => ⟨sound, settled, sound.problemBehind sound.lastMarker.1 complaint⟩

@[grind .] theorem keeps_misfit (token : Token) : Keeps text (misfit token) :=
  fun _ sound settled => ⟨sound, settled, trivial⟩

section

variable [Placeable α] {token : Token}

@[grind ←] theorem keeps_failAbout (placed : Placed text token) (complaint : Complaint) :
    Keeps text (failAbout token complaint : Parse α) :=
  (keeps_problemAbout placed complaint).bind fun _ found => keeps_failWith found

@[grind ←] theorem keeps_failUnexpected (placed : Placed text token) :
    Keeps text (failUnexpected token : Parse α) :=
  (keeps_misfit token).bind fun complaint _ => keeps_failAbout placed complaint

@[grind .] theorem keeps_failBehind (complaint : Complaint) :
    Keeps text (failBehind complaint : Parse α) :=
  (keeps_problemBehind complaint).bind fun _ found => keeps_failWith found

@[grind ←] theorem keeps_tolerateAbout (placed : Placed text token) (complaint : Complaint) :
    Keeps text (tolerateAbout token complaint) :=
  (keeps_problemAbout placed complaint).bind fun _ found => keeps_tolerate found

@[grind ←] theorem keeps_tolerateUnexpected (placed : Placed text token) :
    Keeps text (tolerateUnexpected token) :=
  (keeps_misfit token).bind fun complaint _ => keeps_tolerateAbout placed complaint

end

namespace Meets

variable {next : α → Parse β} {goal : β → State → Prop}

/-- Nothing follows a failure. -/
theorem throw_bind {failure : Failure} (sound : state.Sound text) (placed : Placed text failure) :
    Meets text (throw failure >>= next) state goal := ⟨placed, sound.tolerated⟩

theorem failWith_bind {problem : Problem} (sound : state.Sound text)
    (placed : Placed text problem) : Meets text (failWith problem >>= next) state goal :=
  throw_bind sound placed

theorem failAbout_bind {token : Token} (sound : state.Sound text)
    (settled : state.Settled text) (placed : Placed text token) (complaint : Complaint) :
    Meets text (failAbout token complaint >>= next) state goal := by
  unfold failAbout
  rw [bind_assoc]
  exact keeps_bind (keeps_problemAbout placed complaint) sound settled
    fun _ _ sound _ found => failWith_bind sound found

@[grind ←] theorem failUnexpected_bind {token : Token} (sound : state.Sound text)
    (settled : state.Settled text) (placed : Placed text token) :
    Meets text (failUnexpected token >>= next) state goal := by
  unfold failUnexpected
  rw [bind_assoc]
  exact keeps_bind (keeps_misfit token) sound settled
    fun complaint _ sound settled _ => failAbout_bind sound settled placed complaint

@[grind ←] theorem failBehind_bind (sound : state.Sound text)
    (settled : state.Settled text) (complaint : Complaint) :
    Meets text (failBehind complaint >>= next) state goal := by
  unfold failBehind
  rw [bind_assoc]
  exact keeps_bind (keeps_problemBehind complaint) sound settled
    fun _ _ sound _ found => failWith_bind sound found

end Meets

@[grind .] theorem keeps_tolerateBehind (complaint : Complaint) :
    Keeps text (tolerateBehind complaint) :=
  fun _ sound settled => Meets.get_bind.2
    (.tolerate sound (sound.problemBehind sound.isLine complaint) ⟨settled, trivial⟩)

@[grind .] theorem keeps_expect (sign : String) : Keeps text (expect sign) := by
  intro state sound settled
  unfold expect
  grind

@[grind .] theorem keeps_expectKeyword (word : String) : Keeps text (expectKeyword word) := by
  intro state sound settled
  unfold expectKeyword
  grind

@[grind .] theorem keeps_expectSeparator : Keeps text expectSeparator := by
  intro state sound settled
  unfold expectSeparator
  refine Meets.get_bind.2 ?_
  grind

@[grind .] theorem keeps_endStatement : Keeps text endStatement := by
  have marked : Keeps text (modify fun state => { state with lastMarker := state.startMarker }) :=
    fun _ sound settled => ⟨{ sound with lastMarker := sound.startMarker }, settled, trivial⟩
  intro state sound settled
  unfold endStatement
  grind

section

variable [Placeable α] {phrase : Parse α} (keeps : Keeps text phrase)

include keeps

@[grind ←] theorem keeps_isolated : Keeps text (isolated phrase) := by
  intro state sound settled
  unfold isolated
  refine Meets.getContext_bind.2 (Meets.setContext_bind.2 (Meets.keeps_bind keeps ?_ settled ?_))
  · grind
  · intro result after afterSound afterWithin placed
    refine Meets.getContext_bind.2 ?_
    dsimp only
    split <;> grind

@[grind ←] theorem keeps_inherited : Keeps text (inherited phrase) := by
  intro state sound settled
  unfold inherited
  have either := fun (context : Context) (placed : Placed text context.coverDefault) =>
    placed_orElse sound.coverDefault placed
  grind

@[grind ←] theorem keeps_untilSign (sign : String) : Keeps text (untilSign sign phrase) := by
  intro state sound settled
  unfold untilSign
  grind

end

@[grind .] theorem keeps_spoil : Keeps text spoil := keeps_setContext fun _ placed => placed

@[grind .] theorem keeps_becomeMember : Keeps text becomeMember :=
  keeps_setContext fun _ placed => placed

end ScriptCheck.Modern
