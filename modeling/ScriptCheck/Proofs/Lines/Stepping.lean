import ScriptCheck.Classic.Phrases
import ScriptCheck.Proofs.Lines.Lexeme

/-!
# Lines between tokens

Between tokens the state is settled: all that it remembers for a complaint names its line. `Keeps`
says of a reader that it goes from settled states to settled ones and fails only with what names its
line; `Gives` says besides what is true of its value. Readers are put together from smaller ones, so
one instance for each of them says all about whole runs.
-/

namespace ScriptCheck.Classic

open ScriptCheck.Grammar

variable {text : List Char} {α β : Type} {state : State}

/-- A step from settled states to settled states. -/
class Keeps (text : List Char) (step : Parse α) : Prop where
  ends (state : State) (settled : state.Settled text) :
    Ends text (fun _ after => after.Settled text) (step state)

/-- A step from settled states to settled states, and what is true of its value. -/
def Gives (text : List Char) (step : Parse α) (post : α → Prop) : Prop :=
  ∀ state : State, state.Settled text →
    Ends text (fun value after => after.Settled text ∧ post value) (step state)

namespace Gives

variable {step : Parse α} {next : α → Parse β} {post : α → Prop} {last : β → Prop}

theorem keeps (gives : Gives text step post) : Keeps text step where
  ends state settled := (gives state settled).mono fun _ _ => And.left

theorem pure {value : α} (holds : post value) : Gives text (Pure.pure value : Parse α) post :=
  fun _ settled => ⟨settled, holds⟩

/-- What is known of a value is known to the step behind it. -/
theorem andThen (gives : Gives text step post)
    (rest : ∀ value, post value → Keeps text (next value)) : Keeps text (step >>= next) where
  ends state settled := (gives state settled).bind fun value after reached =>
    (rest value reached.2).ends after reached.1

theorem bind (gives : Gives text step post)
    (rest : ∀ value, post value → Gives text (next value) last) :
    Gives text (step >>= next) last := fun state settled =>
  (gives state settled).bind fun value after reached => rest value reached.2 after reached.1

/-- Anything is true of the value of a step that always fails. -/
theorem never (fails : Gives text step fun _ => False) : Gives text step post :=
  fun state settled => (fails state settled).mono fun _ _ reached => reached.2.elim

/-- Nothing is done behind a step that always fails. -/
theorem never_bind (fails : Gives text step fun _ => False) : Gives text (step >>= next) last :=
  fails.bind fun _ never => never.elim

theorem behind [first : Keeps text step] (rest : ∀ value, Gives text (next value) last) :
    Gives text (step >>= next) last := fun state settled =>
  (first.ends state settled).bind fun value after settled => rest value after settled

theorem either {condition : Prop} [Decidable condition] {first second : Parse α}
    (firstGives : Gives text first post) (secondGives : Gives text second post) :
    Gives text (if condition then first else second) post := by
  split <;> assumption

/-- A loop keeps what is true of its value turn by turn. -/
theorem loop {step : α → Parse (α ⊕ β)} (keep : α → Prop)
    (turn : ∀ value, keep value → Gives text (step value) fun found =>
      match found with
      | .inl next => keep next
      | .inr answer => last answer) {start : α} (first : keep start) :
    Gives text (Grammar.iterate start step) last := fun state settled =>
  .iterate (fun value after => after.Settled text ∧ keep value) ⟨settled, first⟩
    (fun _ _ kept => kept.1.cursor) fun value before kept =>
      (turn value kept.2 before kept.1).mono fun found after reached => by
        cases found <;> exact reached

end Gives

namespace Keeps

variable {step : Parse α} {next : α → Parse β}

/-- A step that only looks at the state. -/
theorem look (value : State → α) : Keeps text (fun state => .ok (value state) state) where
  ends _ settled := settled

instance pure {value : α} : Keeps text (Pure.pure value : Parse α) := look fun _ => value

instance getState : Keeps text (get : Parse State) := look id

instance throwTooDeep : Keeps text (throw .tooDeep : Parse α) where
  ends _ _ := trivial

theorem andThen (first : Keeps text step) (rest : ∀ value, Keeps text (next value)) :
    Keeps text (step >>= next) where
  ends state settled := (first.ends state settled).bind fun value after settled =>
    (rest value).ends after settled

instance bind [Keeps text step] [∀ value, Keeps text (next value)] : Keeps text (step >>= next) :=
  andThen inferInstance inferInstance

instance map {change : α → β} [Keeps text step] : Keeps text (change <$> step) :=
  inferInstanceAs (Keeps text (step >>= fun value => Pure.pure (change value)))

instance discard [Keeps text step] : Keeps text (Functor.discard step) :=
  inferInstanceAs (Keeps text ((fun _ => PUnit.unit) <$> step))

/-- A step that is one of two. -/
theorem either {condition : Prop} [Decidable condition] {first second : Parse α}
    (firstKeeps : condition → Keeps text first) (secondKeeps : ¬ condition → Keeps text second) :
    Keeps text (if condition then first else second) := by
  split
  next holds => exact firstKeeps holds
  next fails => exact secondKeeps fails

instance ite {condition : Prop} [Decidable condition] {first second : Parse α} [Keeps text first]
    [Keeps text second] : Keeps text (if condition then first else second) :=
  either (fun _ => inferInstance) fun _ => inferInstance

/-- A step that is done under a condition, with another one behind it. -/
theorem optional {condition : Prop} [Decidable condition] {step : Parse Unit}
    {next : Unit → Parse α} (first : condition → Keeps text step) (rest : Keeps text (next ())) :
    Keeps text (if condition then step >>= next else next ()) :=
  either (fun holds => (first holds).andThen fun _ => rest) fun _ => rest

instance iterate {step : α → Parse (α ⊕ β)} [turn : ∀ value, Keeps text (step value)] {start : α} :
    Keeps text (Grammar.iterate start step) :=
  have gives : Gives text (Grammar.iterate start step) fun _ => True :=
    .loop (fun _ => True) (fun value _ state settled =>
      ((turn value).ends state settled).mono fun found _ settled =>
        ⟨settled, by cases found <;> trivial⟩) trivial
  gives.keeps

instance slice {start stop : Nat} : Keeps text (Grammar.slice start stop : Parse (List Char)) :=
  look _

end Keeps

/-- A step that changes nothing that complaints are made of. -/
theorem keeps_modify {change : State → State}
    (kept : ∀ state : State, state.Settled text → (change state).Settled text) :
    Keeps text (modify change : Parse Unit) where
  ends state settled := kept state settled

theorem gives_getContext : Gives text getContext (NamesDefault text) :=
  fun _ settled => ⟨settled, settled.context⟩

instance keeps_getContext : Keeps text getContext := gives_getContext.keeps

instance keeps_lineEnded : Keeps text lineEnded := .look _

/-- What code allows may change, and the equals sign that it may not have with it. -/
theorem keeps_setContext {change : Context → Context}
    (kept : ∀ context, NamesDefault text context → NamesDefault text (change context)) :
    Keeps text (setContext change) :=
  keeps_modify fun _ settled => { settled with context := kept _ settled.context }

instance keeps_allow {allowIn isAssignable inFunction inLoop inSwitch strict : Context → Bool}
    {labels : Context → List Name} :
    Keeps text (setContext fun context => ⟨allowIn context, context.coverDefault,
      isAssignable context, inFunction context, inLoop context, inSwitch context, labels context,
      strict context⟩) := keeps_setContext fun _ names => names

instance keeps_forgetDefault
    {allowIn isAssignable inFunction inLoop inSwitch strict : Context → Bool}
    {labels : Context → List Name} :
    Keeps text (setContext fun context => ⟨allowIn context, none, isAssignable context,
      inFunction context, inLoop context, inSwitch context, labels context, strict context⟩) :=
  keeps_setContext fun _ _ _ found => nomatch found

instance keeps_failBehind {complaint : Complaint} :
    Keeps text (failBehind complaint : Parse α) where
  ends _ settled := .failBehind settled.toTracks

/-- A feature is refused behind the last token, but the line is the one that was read up to. -/
theorem gives_failUnsupported {feature : String} :
    Gives text (failUnsupported feature : Parse α) fun _ => False :=
  fun _ settled => .inr (.inl ⟨rfl, settled.lastPlace ▸ settled.last_le⟩)

instance keeps_failUnsupported {feature : String} :
    Keeps text (failUnsupported feature : Parse α) := gives_failUnsupported.keeps

/-- What is complained about a token that spans lines may span lines. -/
theorem gives_failAbout {token : Token} (names : NamesLine text token) {complaint : Complaint}
    (spanning : spans token = true → spansLines complaint = true) :
    Gives text (failAbout token complaint : Parse α) fun _ => False := by
  intro state settled
  show Ends text _ ((throw (if token.isTooLong state.limits then .longNumber
    else .complaint token.line token.start complaint) : Parse α) state)
  split
  · trivial
  · cases isSpan : spans token with
    | true => exact .inr (.inl ⟨spanning isSpan, names.line_le⟩)
    | false => exact .inl (names.line_eq isSpan)

/-- A token that spans lines is a text or a template, and is named so. -/
theorem gives_failUnexpected {token : Token} (names : NamesLine text token) :
    Gives text (failUnexpected token : Parse α) fun _ => False := by
  refine .behind fun context => gives_failAbout names fun isSpan => ?_
  unfold Token.complaint
  unfold spans at isSpan
  cases kind : token.kind <;> simp_all [spansLines]

instance keeps_failUnexpected {token : Token} [names : NamesLine text token] :
    Keeps text (failUnexpected token : Parse α) := (gives_failUnexpected names).keeps

/-- A token is read ahead from where the cursor stands. -/
theorem ends_readAhead (tracks : state.Tracks text)
    (last_le : state.lastPlace.line ≤ state.cursor.line) :
    Ends text (fun _ after => after.Settled text) (readAhead state) := by
  have started : { state with startPlace := state.cursorPlace }.Tracks text :=
    { tracks with startPlace := tracks.cursor }
  refine .change ((ends_readToken started).bind fun token after read => ?_)
  have tracksAfter := started.of_follows read.follows
  have keptLast : after.lastPlace = state.lastPlace := by rw [read.follows.same]
  have keptStart : after.startPlace = state.cursorPlace := by rw [read.follows.same]
  exact { tracksAfter with
    last_le := by
      show after.lastPlace.line ≤ after.cursor.line
      rw [keptLast]
      exact Nat.le_trans last_le read.follows.line_le
    start_le := by
      show after.startPlace.line ≤ after.cursor.line
      rw [keptStart]
      exact read.follows.line_le
    lookahead := by
      rintro _ ⟨⟩
      exact read.names
    start_eq := by
      rintro _ ⟨⟩
      show token.start = after.startPlace.index
      rw [keptStart]
      exact read.start_eq
    line_eq := by
      rintro _ ⟨⟩
      exact read.line_eq }

/-- The step over a token starts from wherever the cursor stands. -/
theorem ends_stepOver (tracks : state.Tracks text) :
    Ends text (fun _ after => after.Settled text) (stepOver state) := by
  have behind : { state with lastPlace := state.cursorPlace }.Tracks text :=
    { tracks with lastPlace := tracks.cursor }
  refine .change ((ends_skipToToken behind).bind fun _ after reached => ?_)
  refine ends_readAhead reached.1 ?_
  rw [reached.2.1]
  exact reached.2.2

instance keeps_stepOver : Keeps text stepOver where
  ends _ settled := ends_stepOver settled.toTracks

/-- The first token stands behind nothing but gaps. -/
theorem ends_readFirst (tracks : state.Tracks text) :
    Ends text (fun _ after => after.Settled text) (readFirst state) := by
  refine (ends_skipToToken tracks).bind fun _ after reached => ?_
  exact ends_readAhead { reached.1 with lastPlace := reached.1.cursor } (Nat.le_refl _)

/-- The token that is read next is the one that was read ahead. -/
theorem Ends.lookahead (settled : state.Settled text) {next : Token → Parse β}
    {goal : β → State → Prop}
    (rest : ∀ token, state.lookahead = some token → Ends text goal (next token state)) :
    Ends text goal ((Classic.lookahead >>= next) state) := by
  unfold Classic.lookahead
  rw [bind_assoc]
  refine .getState ?_
  cases found : state.lookahead with
  | some token => exact rest token found
  | none => exact .failAtCursor_bind settled.toTracks

theorem Ends.isAtKeyword (settled : state.Settled text) {words : List String}
    {next : Bool → Parse β} {goal : β → State → Prop}
    (rest : ∀ token, state.lookahead = some token →
      Ends text goal (next (token.isKeyword words) state)) :
    Ends text goal ((Classic.isAtKeyword words >>= next) state) := by
  unfold Classic.isAtKeyword
  rw [bind_assoc]
  exact .lookahead settled rest

/-- The token that is read next names its line. -/
theorem gives_lookahead : Gives text lookahead (NamesLine text) := by
  intro state settled
  rw [← bind_pure Classic.lookahead]
  exact .lookahead settled fun token found => ⟨settled, settled.lookahead token found⟩

instance keeps_lookahead : Keeps text lookahead := gives_lookahead.keeps

/-- The token that is read is the one that was read ahead. -/
theorem ends_nextToken (settled : state.Settled text) :
    Ends text (fun token after => after.Settled text ∧ state.lookahead = some token)
      (nextToken state) :=
  .lookahead settled fun _ found =>
    (ends_stepOver settled.toTracks).bind fun _ _ settled => ⟨settled, found⟩

theorem gives_nextToken : Gives text nextToken (NamesLine text) :=
  gives_lookahead.bind fun _ names => .behind fun _ => .pure names

instance keeps_nextToken : Keeps text nextToken := gives_nextToken.keeps

/-- A regular expression is read from the start of the token that was read ahead, which stands on
the line of the cursor if no line feeds may stand in it. -/
theorem ends_nextPattern (settled : state.Settled text) {token : Token}
    (found : state.lookahead = some token) (isOnLine : spans token = false) :
    Ends text (fun _ after => after.Settled text) (nextPattern state) := by
  have names := settled.lookahead token found
  have start_eq := settled.start_eq token found
  have line_eq := settled.line_eq token found
  have back : { state.movedTo state.startPlace.index with lookahead := none }.Tracks text :=
    { settled.toTracks with
      cursor := by
        show state.cursor.line = lineOf text state.startPlace.index
        rw [← line_eq, ← start_eq, names.line_eq isOnLine] }
  have noFeed : state.characterAt state.startPlace.index ≠ '\n' := fun isFeed =>
    names.start (start_eq ▸ settled.getElem?_eq_feed.2 isFeed)
  refine .getState (.moveTo (.change
    ((ends_readPatternBody back noFeed).discard.bind fun _ after onLine => ?_)))
  exact (reads_readPatternFlags.behind back onLine).bind fun _ _ onLine =>
    ends_stepOver (back.of_onLine onLine)

instance keeps_skipToken : Keeps text skipToken := .discard

instance keeps_isAtSign {signs : List String} : Keeps text (isAtSign signs) := by
  unfold isAtSign
  infer_instance

instance keeps_isAtKeyword {words : List String} : Keeps text (isAtKeyword words) := by
  unfold isAtKeyword
  infer_instance

instance keeps_isAtEndOfFile : Keeps text isAtEndOfFile := by
  unfold isAtEndOfFile
  infer_instance

instance keeps_expect {sign : String} : Keeps text (expect sign) :=
  gives_nextToken.andThen fun _ _ => inferInstance

instance keeps_expectKeyword {word : String} : Keeps text (expectKeyword word) :=
  gives_nextToken.andThen fun _ _ => inferInstance

instance keeps_endStatement : Keeps text endStatement := by
  have reached : Keeps text (modify fun state => { state with lastPlace := state.startPlace }) :=
    keeps_modify fun _ settled =>
      { settled with lastPlace := settled.startPlace, last_le := settled.start_le }
  have refused : Keeps text (do
      let token ← lookahead
      if token.kind ≠ .endOfFile ∧ !token.isSign ["\x7d"] then failUnexpected token) :=
    gives_lookahead.andThen fun _ _ => inferInstance
  unfold endStatement
  infer_instance

/-- A sign that a shorthand property may not have is complained about where it stands. -/
instance keeps_isolated {phrase : Parse α} [Keeps text phrase] : Keeps text (isolated phrase) := by
  refine gives_getContext.andThen fun outer outerNames => .andThen inferInstance fun _ =>
    .andThen inferInstance fun result => gives_getContext.andThen fun context names => ?_
  have restored : Keeps text (setContext fun context =>
      { context with isAssignable := outer.isAssignable, coverDefault := outer.coverDefault }) :=
    keeps_setContext fun _ _ => outerNames
  cases found : context.coverDefault with
  | none => infer_instance
  | some token =>
      have := names token found
      infer_instance

/-- It is handed on to the phrase around it. -/
theorem keeps_handOn {outer : Context} (outerNames : NamesDefault text outer) :
    Keeps text (setContext fun context =>
      { context with
        isAssignable := context.isAssignable && outer.isAssignable
        coverDefault := outer.coverDefault <|> context.coverDefault }) := by
  refine keeps_setContext fun context names token found => ?_
  simp only [Option.orElse_eq_orElse, Option.orElse_eq_or, Option.or_eq_some_iff] at found
  rcases found with found | ⟨-, found⟩
  · exact outerNames token found
  · exact names token found

instance keeps_inherited {phrase : Parse α} [Keeps text phrase] : Keeps text (inherited phrase) :=
  gives_getContext.andThen fun _ outerNames => .andThen inferInstance fun _ =>
    .andThen inferInstance fun _ => .andThen (keeps_handOn outerNames) fun _ => inferInstance

instance keeps_becomeAssignable {isAssignable : Bool} :
    Keeps text (becomeAssignable isAssignable) := by
  unfold becomeAssignable
  infer_instance

instance keeps_untilSignOrEnd {sign : String} {item : Parse Unit} [Keeps text item] :
    Keeps text (untilSignOrEnd sign item) := by
  unfold untilSignOrEnd
  infer_instance

instance keeps_whileSign {sign : String} {item : Parse Unit} [Keeps text item] :
    Keeps text (whileSign sign item) := by
  unfold whileSign
  infer_instance

end ScriptCheck.Classic
