import ScriptCheck.Classic.Lexeme
import ScriptCheck.Proofs.Lines.Basic

/-!
# Lines while characters are read

Between characters only the cursor moves and braces open and close. A reader that stays on its line
passes no line feed (`Reads`); one that comes to other lines counts each line feed that it passes
(`Passes`). The one line feed that is not counted cuts a literal off, and then the run fails.
-/

namespace ScriptCheck.Classic

open ScriptCheck.Grammar

variable {text : List Char} {α β : Type} {state before after : State}

/-- The character at an index. Behind the source there are null characters. -/
def State.characterAt (state : State) (index : Nat) : Char := state.source[index]?.getD '\x00'

/-- The state with its cursor at another index. -/
def State.movedTo (state : State) (index : Nat) : State :=
  { state with cursor := { state.cursor with index } }

/-- The state with its cursor at the start of the next line. -/
def State.onNextLine (state : State) : State :=
  { state with cursor := ⟨state.cursor.index, state.cursor.line + 1, state.cursor.index⟩ }

/-- A line feed was read and not counted. -/
def State.CutOff (text : List Char) (state : State) : Prop :=
  Text.position text state.cursor.index = ⟨state.cursor.line + 1, 1⟩

/-- From one state to another the cursor goes on, and counts its lines. -/
structure State.Follows (text : List Char) (before after : State) : Prop where
  same : after = { before with cursor := after.cursor, braces := after.braces }
  cursor : after.cursor.line = lineOf text after.cursor.index
  line_le : before.cursor.line ≤ after.cursor.line

/-- From one state to another the cursor stays on its line. -/
structure State.OnLine (text : List Char) (before after : State) : Prop where
  same : after = { before with cursor := after.cursor, braces := after.braces }
  cursor : after.cursor.line = lineOf text after.cursor.index
  line_eq : after.cursor.line = before.cursor.line

theorem State.OnLine.follows (onLine : before.OnLine text after) : before.Follows text after :=
  ⟨onLine.same, onLine.cursor, Nat.le_of_eq onLine.line_eq.symm⟩

theorem State.Follows.trans {last : State} (first : before.Follows text after)
    (second : after.Follows text last) : before.Follows text last where
  same := by rw [second.same, first.same]
  cursor := second.cursor
  line_le := Nat.le_trans first.line_le second.line_le

theorem State.OnLine.trans {last : State} (first : before.OnLine text after)
    (second : after.OnLine text last) : before.OnLine text last where
  same := by rw [second.same, first.same]
  cursor := second.cursor
  line_eq := second.line_eq.trans first.line_eq

namespace State.Tracks

theorem onLine (tracks : state.Tracks text) : state.OnLine text state :=
  ⟨rfl, tracks.cursor, rfl⟩

/-- Nothing but the cursor differs from the state before. -/
theorem of_follows (tracks : before.Tracks text) (follows : before.Follows text after) :
    after.Tracks text := by
  have same := follows.same
  constructor
  · exact tracks.feeds
  · rw [same]
    exact tracks.source
  · exact follows.cursor
  · rw [same]
    exact tracks.lastPlace
  · rw [same]
    exact tracks.startPlace
  · rw [same]
    exact tracks.context

theorem of_onLine (tracks : before.Tracks text) (onLine : before.OnLine text after) :
    after.Tracks text := tracks.of_follows onLine.follows

/-- Only a line feed of the text is seen as one. -/
theorem getElem?_eq_feed (tracks : state.Tracks text) {index : Nat} :
    text[index]? = some '\n' ↔ state.characterAt index = '\n' := by
  unfold State.characterAt
  rw [tracks.source, List.getElem?_toArray]
  cases text[index]? with
  | none => simp
  | some character => simp

/-- A line end that is seen is a line feed. -/
theorem eq_feed (tracks : state.Tracks text) {index : Nat}
    (isEnd : isLineEnd (state.characterAt index) = true) : state.characterAt index = '\n' := by
  unfold State.characterAt at isEnd ⊢
  rw [tracks.source, List.getElem?_toArray] at isEnd ⊢
  cases found : text[index]? with
  | none =>
      rw [found] at isEnd
      exact absurd isEnd (by decide)
  | some character =>
      rw [found] at isEnd
      exact tracks.feeds character (List.mem_of_getElem? found) isEnd

/-- The cursor goes over characters that are no line feeds. -/
theorem movedOn (tracks : state.Tracks text) (distance : Nat)
    (noFeed : ∀ step < distance, state.characterAt (state.cursor.index + step) ≠ '\n') :
    state.OnLine text (state.movedTo (state.cursor.index + distance)) where
  same := rfl
  cursor := by
    have onLine : lineOf text (state.cursor.index + distance) = lineOf text state.cursor.index :=
      lineOf_add fun step before isFeed => noFeed step before (tracks.getElem?_eq_feed.1 isFeed)
    exact tracks.cursor.trans onLine.symm
  line_eq := rfl

/-- The cursor goes over a character that is no line feed. -/
theorem movedOver (tracks : state.Tracks text)
    (noFeed : state.characterAt state.cursor.index ≠ '\n') :
    state.OnLine text (state.movedTo (state.cursor.index + 1)) := by
  refine tracks.movedOn 1 fun step before => ?_
  obtain rfl : step = 0 := by omega
  exact noFeed

/-- So it does over a character that ends no line. -/
theorem movedWithin (tracks : state.Tracks text)
    (notEnd : ¬ isLineEnd (state.characterAt state.cursor.index) = true) :
    state.OnLine text (state.movedTo (state.cursor.index + 1)) :=
  tracks.movedOver fun isFeed => notEnd (by rw [isFeed]; rfl)

/-- The cursor goes back on its line. -/
theorem movedBack (onLine : before.OnLine text after) (tracks : before.Tracks text) :
    before.OnLine text (after.movedTo before.cursor.index) where
  same := by
    rw [onLine.same]
    rfl
  cursor := onLine.line_eq.trans tracks.cursor
  line_eq := onLine.line_eq

/-- Behind a line feed the line is counted. -/
theorem nextLine (tracks : state.Tracks text)
    (isFeed : state.characterAt state.cursor.index = '\n') :
    state.Follows text (state.movedTo (state.cursor.index + 1)).onNextLine where
  same := rfl
  cursor := by
    have counted := lineOf_feed (tracks.getElem?_eq_feed.2 isFeed)
    show state.cursor.line + 1 = lineOf text (state.cursor.index + 1)
    rw [counted, tracks.cursor]
  line_le := Nat.le_succ _

/-- A line feed was read and not counted yet. -/
theorem cutOff (tracks : state.Tracks text)
    (isFeed : state.characterAt state.cursor.index = '\n') :
    (state.movedTo (state.cursor.index + 1)).CutOff text := by
  have place := position_feed (tracks.getElem?_eq_feed.2 isFeed)
  show Text.position text ((state.cursor.index + 1 : Nat) : Int) = ⟨state.cursor.line + 1, 1⟩
  rw [place, tracks.cursor]

end State.Tracks

namespace Ends

variable {goal : β → State → Prop} {next : α → Parse β}

theorem getState {next : State → Parse β} (rest : Ends text goal (next state state)) :
    Ends text goal ((get >>= next) state) := rest

theorem change {change : State → State} {next : Unit → Parse β}
    (rest : Ends text goal (next () (change state))) :
    Ends text goal ((modify change >>= next) state) := rest

theorem getBraces {next : List Brace → Parse β}
    (rest : Ends text goal (next state.braces state)) :
    Ends text goal ((Grammar.getBraces >>= next) state) := rest

theorem getCursor {next : Cursor → Parse β} (rest : Ends text goal (next state.cursor state)) :
    Ends text goal ((Grammar.getCursor >>= next) state) := rest

theorem atEnd {next : Bool → Parse β}
    (rest : Ends text goal (next (decide (state.source.size ≤ state.cursor.index)) state)) :
    Ends text goal ((Grammar.atEnd >>= next) state) := rest

theorem peekAt {distance : Nat} {next : Char → Parse β}
    (rest : Ends text goal (next (state.characterAt (state.cursor.index + distance)) state)) :
    Ends text goal ((Grammar.peekAt distance >>= next) state) := by
  have source : Reading.source Failure state = state.source := rfl
  unfold State.characterAt at rest
  unfold Grammar.peekAt
  rw [bind_assoc]
  refine .getState ?_
  rw [bind_assoc]
  refine .getCursor ?_
  rw [source]
  cases found : state.source[state.cursor.index + distance]? with
  | none =>
      rw [found] at rest
      exact rest
  | some character =>
      rw [found] at rest
      exact rest

theorem peek {next : Char → Parse β}
    (rest : Ends text goal (next (state.characterAt state.cursor.index) state)) :
    Ends text goal ((Grammar.peek >>= next) state) := peekAt rest

theorem moveTo {index : Nat} {next : Unit → Parse β}
    (rest : Ends text goal (next () (state.movedTo index))) :
    Ends text goal ((Grammar.moveTo index >>= next) state) := rest

theorem advance {distance : Nat} {next : Unit → Parse β}
    (rest : Ends text goal (next () (state.movedTo (state.cursor.index + distance)))) :
    Ends text goal ((Grammar.advance distance >>= next) state) := rest

theorem take {next : Char → Parse β}
    (rest : Ends text goal (next (state.characterAt state.cursor.index)
      (state.movedTo (state.cursor.index + 1)))) :
    Ends text goal ((Grammar.take >>= next) state) := by
  unfold Grammar.take
  rw [bind_assoc]
  refine peek ?_
  rw [bind_assoc]
  exact rest

theorem slice {start stop : Nat} {next : List Char → Parse β}
    (rest : Ends text goal (next (state.source.extract start stop).toList state)) :
    Ends text goal ((Grammar.slice start stop >>= next) state) := rest

/-- A complaint at a cursor that counts its lines names its line. -/
theorem failAtCursor (tracks : state.Tracks text) {complaint : Complaint} :
    Ends text goal ((Grammar.failAtCursor complaint : Parse β) state) := .inl tracks.cursor.symm

theorem failAtCursor_bind (tracks : state.Tracks text) {complaint : Complaint} :
    Ends text goal ((Grammar.failAtCursor complaint >>= next) state) := .inl tracks.cursor.symm

/-- So does a complaint about a literal that was cut off. -/
theorem failCutOff (cutOff : state.CutOff text) {complaint : Complaint}
    (cuts : cutsOff complaint = true) :
    Ends text goal ((Grammar.failAtCursor complaint >>= next) state) := .inr (.inr ⟨cuts, cutOff⟩)

/-- A line feed that was read is counted. -/
theorem endLine (tracks : state.Tracks text)
    (isEnd : isLineEnd (state.characterAt state.cursor.index) = true) :
    Ends text (fun _ => state.Follows text)
      ((Grammar.endLine (state.characterAt state.cursor.index) : Parse Unit)
        (state.movedTo (state.cursor.index + 1))) := by
  have counted := tracks.nextLine (tracks.eq_feed isEnd)
  rw [tracks.eq_feed isEnd]
  exact peek counted

end Ends

/-- A step that stays on its line. -/
def Reads (text : List Char) (step : Parse α) : Prop :=
  ∀ state : State, state.Tracks text → Ends text (fun _ => state.OnLine text) (step state)

/-- A step that counts the lines that it comes to. -/
def Passes (text : List Char) (step : Parse α) : Prop :=
  ∀ state : State, state.Tracks text → Ends text (fun _ => state.Follows text) (step state)

namespace Reads

variable {step : Parse α} {next : α → Parse β}

/-- What is read ahead on a line is read from before it. -/
theorem behind (reads : Reads text step) (tracks : before.Tracks text)
    (onLine : before.OnLine text after) : Ends text (fun _ => before.OnLine text) (step after) :=
  (reads after (tracks.of_onLine onLine)).mono fun _ _ => onLine.trans

theorem pure (value : α) : Reads text (Pure.pure value : Parse α) := fun _ tracks => tracks.onLine

theorem failAtCursor (complaint : Complaint) :
    Reads text (Grammar.failAtCursor complaint : Parse α) := fun _ tracks => .failAtCursor tracks

theorem bind (first : Reads text step) (rest : ∀ value, Reads text (next value)) :
    Reads text (step >>= next) := fun state tracks =>
  (first state tracks).bind fun value _ onLine => (rest value).behind tracks onLine

/-- A loop stays on its line if its turns do. -/
theorem iterate {step : α → Parse (α ⊕ β)} (turn : ∀ value, Reads text (step value)) (start : α) :
    Reads text (Grammar.iterate start step) := by
  intro state tracks
  refine .iterate (fun _ => state.OnLine text) tracks.onLine (fun _ _ => State.OnLine.cursor) ?_
  intro value before onLine
  refine ((turn value).behind tracks onLine).mono fun found after reached => ?_
  cases found <;> exact reached

theorem passes (reads : Reads text step) : Passes text step := fun state tracks =>
  (reads state tracks).mono fun _ _ => State.OnLine.follows

end Reads

namespace Passes

variable {step : Parse α} {next : α → Parse β}

/-- What is read further on is read from before it. -/
theorem behind (passes : Passes text step) (tracks : before.Tracks text)
    (follows : before.Follows text after) : Ends text (fun _ => before.Follows text) (step after) :=
  (passes after (tracks.of_follows follows)).mono fun _ _ => follows.trans

theorem bind (first : Passes text step) (rest : ∀ value, Passes text (next value)) :
    Passes text (step >>= next) := fun state tracks =>
  (first state tracks).bind fun value _ follows => (rest value).behind tracks follows

/-- A loop counts its lines if its turns do. -/
theorem iterate {step : α → Parse (α ⊕ β)} (turn : ∀ value, Passes text (step value)) (start : α) :
    Passes text (Grammar.iterate start step) := by
  intro state tracks
  refine .iterate (fun _ => state.Follows text) tracks.onLine.follows
    (fun _ _ => State.Follows.cursor) ?_
  intro value before follows
  refine ((turn value).behind tracks follows).mono fun found after reached => ?_
  cases found <;> exact reached

end Passes

/-- A character that satisfies a condition is no line feed if a line feed does not. -/
theorem ne_feed {condition : Char → Bool} {character : Char} (refuses : condition '\n' = false)
    (satisfies : condition character = true) : character ≠ '\n' := by
  rintro rfl
  rw [refuses] at satisfies
  cases satisfies

theorem reads_takeWhile {condition : Char → Bool} (refuses : condition '\n' = false) :
    Reads text (takeWhile condition) := by
  unfold takeWhile
  refine .bind (.iterate (fun taken state tracks => .atEnd ?_) []) fun _ => .pure _
  split
  · exact tracks.onLine
  · refine .peek ?_
    split
    next inside => exact .advance (tracks.movedOver (ne_feed refuses inside))
    next => exact tracks.onLine

theorem passes_skipLine : Passes text skipLine := by
  refine .iterate (fun _ state tracks => .atEnd ?_) ()
  split
  · exact tracks.onLine.follows
  · refine .take ?_
    split
    next isEnd =>
      exact .bind (.endLine tracks isEnd) fun _ _ follows => follows
    next notEnd => exact (tracks.movedWithin notEnd).follows

theorem passes_skipBlockComment {unclosed : Parse Unit} (passes : Passes text unclosed) :
    Passes text (skipBlockComment unclosed) := by
  refine .iterate (fun _ state tracks => .atEnd ?_) ()
  split
  · exact (passes state tracks).bind fun _ _ follows => follows
  · refine .take ?_
    split
    next isEnd =>
      exact .bind (.endLine tracks isEnd) fun _ _ follows => follows
    next notEnd =>
      have onLine := tracks.movedWithin notEnd
      refine .peek ?_
      split
      next closes =>
        have moved := (tracks.of_onLine onLine).movedOver (by rw [closes.2]; decide)
        exact .advance (onLine.trans moved).follows
      next => exact onLine.follows

/-- A comment that is opened by `distance` characters on its line ends with the line. -/
theorem ends_lineComment (tracks : state.Tracks text) (distance : Nat)
    (noFeed : ∀ step < distance, state.characterAt (state.cursor.index + step) ≠ '\n')
    (lineIsBlank : Bool) :
    Ends text (fun _ => state.Follows text)
      ((do
        advance distance
        skipLine
        return .inl lineIsBlank : Parse (Bool ⊕ Unit)) state) :=
  .advance ((passes_skipLine.bind fun _ => (Reads.pure _).passes).behind tracks
    (tracks.movedOn distance noFeed).follows)

/-- A comment with a mark at its end may stretch over lines. -/
theorem ends_blockComment (tracks : state.Tracks text) {unclosed : Parse Unit}
    (passes : Passes text unclosed) (distance : Nat)
    (noFeed : ∀ step < distance, state.characterAt (state.cursor.index + step) ≠ '\n')
    (lineIsBlank : Bool) :
    Ends text (fun _ => state.Follows text)
      ((do
        advance distance
        skipBlockComment unclosed
        return .inl lineIsBlank : Parse (Bool ⊕ Unit)) state) :=
  .advance (((passes_skipBlockComment passes).bind fun _ => (Reads.pure _).passes).behind tracks
    (tracks.movedOn distance noFeed).follows)

theorem passes_skipGap (markup : Bool) {unclosed : Parse Unit} (passes : Passes text unclosed) :
    Passes text (skipGap markup unclosed) := by
  intro state tracks
  unfold skipGap
  refine .getCursor (Passes.iterate (fun lineIsBlank state tracks => .atEnd ?_) _ state tracks)
  split
  · exact tracks.onLine.follows
  · refine .peek ?_
    split
    next isSpace => exact .advance (tracks.movedOver (ne_feed (by decide) isSpace)).follows
    next =>
      split
      next isEnd =>
        exact .advance (.bind (.endLine tracks isEnd)
          fun _ _ follows => follows)
      next =>
        refine .peekAt ?_
        split
        next opens =>
          refine ends_lineComment tracks 2 (fun step before => ?_) true
          match step with
          | 0 | 1 => simp [opens]
        next =>
          refine .peekAt ?_
          split
          next opens =>
            refine ends_blockComment tracks passes 2 (fun step before => ?_) lineIsBlank
            match step with
            | 0 | 1 => simp [opens]
          next =>
            refine .peekAt (.peekAt ?_)
            split
            next opens =>
              refine ends_lineComment tracks 3 (fun step before => ?_) lineIsBlank
              match step with
              | 0 | 1 | 2 => simp [opens]
            next =>
              refine .peekAt (.peekAt (.peekAt ?_))
              split
              next opens =>
                refine ends_lineComment tracks 4 (fun step before => ?_) lineIsBlank
                match step with
                | 0 | 1 | 2 | 3 => simp [opens]
              next => exact tracks.onLine.follows

theorem reads_hexEscape (count value : Nat) : Reads text (hexEscape count value) := by
  induction count generalizing value with
  | zero => exact .pure _
  | succ count inductionHypothesis =>
      refine fun state tracks => .atEnd ?_
      split
      · exact tracks.onLine
      · refine .peek ?_
        cases isDigit : Text.hexValue? (state.characterAt state.cursor.index) with
        | none => exact tracks.onLine
        | some digit =>
            refine .advance
              ((inductionHypothesis _).behind tracks (tracks.movedOver fun isFeed => ?_))
            rw [isFeed] at isDigit
            cases isDigit

/-- A line feed cuts an escape in braces off. -/
theorem reads_bracedEscape : Reads text bracedEscape := by
  refine fun state tracks => .peek ?_
  split
  · exact .failAtCursor_bind tracks
  · refine .through (fun found after => state.OnLine text after ∨
      (found.2 = false ∧ after.CutOff text)) (.iterate (fun _ => state.OnLine text) tracks.onLine
        (fun _ _ => State.OnLine.cursor) fun value before onLine => .atEnd ?_) ?_
    · split
      · exact .inl onLine
      · have tracks := tracks.of_onLine onLine
        refine .take ?_
        by_cases isFeed : before.characterAt before.cursor.index = '\n'
        · rw [isFeed]
          exact .inr ⟨rfl, tracks.cutOff isFeed⟩
        · have moved := onLine.trans (tracks.movedOver isFeed)
          cases Text.hexValue? (before.characterAt before.cursor.index) with
          | some digit => exact moved
          | none => exact .inl moved
    · rintro ⟨value, closed⟩ after (onLine | ⟨rfl, cutOff⟩)
      · dsimp only
        split
        · exact .failAtCursor_bind (tracks.of_onLine onLine)
        · exact onLine
      · dsimp only
        rw [if_pos (.inr rfl)]
        exact .failCutOff cutOff rfl

theorem reads_octalEscape (first : Char) : Reads text (octalEscape first) := by
  refine fun state tracks => .peek (.atEnd ?_)
  split
  · exact tracks.onLine
  next second =>
    rw [not_or, Bool.not_eq_true', Bool.not_eq_false] at second
    have onLine := tracks.movedOver (ne_feed rfl second.2)
    have tracks := tracks.of_onLine onLine
    refine .advance (.peek (.atEnd ?_))
    split
    · exact onLine
    next third =>
      rw [not_or, not_or, Bool.not_eq_true', Bool.not_eq_false] at third
      exact .advance (onLine.trans (tracks.movedOver (ne_feed rfl third.2.1)))

theorem reads_endNumeral (refused : Char → Bool) : Reads text (endNumeral refused) := by
  refine fun state tracks => .peek ?_
  split
  · exact .failAtCursor tracks
  · exact tracks.onLine

/-- A step that reads a token within a line. -/
def Makes (text : List Char) (start : Nat) (step : Parse Token) : Prop :=
  ∀ state : State, state.Tracks text → Ends text (fun token after => state.OnLine text after ∧
    token.start = start ∧ token.line = after.cursor.line) (step state)

namespace Makes

variable {start : Nat} {step : Parse Token}

theorem behind (makes : Makes text start step) (tracks : before.Tracks text)
    (onLine : before.OnLine text after) : Ends text (fun token last => before.OnLine text last ∧
      token.start = start ∧ token.line = last.cursor.line) (step after) :=
  (makes after (tracks.of_onLine onLine)).mono fun _ _ made => ⟨onLine.trans made.1, made.2⟩

theorem andThen {first : Parse α} {next : α → Parse Token} (reads : Reads text first)
    (rest : ∀ value, Makes text start (next value)) : Makes text start (first >>= next) :=
  fun state tracks => (reads state tracks).bind fun value _ onLine =>
    (rest value).behind tracks onLine

theorem either {condition : Prop} [Decidable condition] {first second : Parse Token}
    (firstMakes : Makes text start first) (secondMakes : Makes text start second) :
    Makes text start (if condition then first else second) := by
  split <;> assumption

/-- A character is read if it is one of some, to which a line feed does not belong. -/
theorem peekIf {condition : Char → Prop} [DecidablePred condition] {yes no : Char → Parse Token}
    (refuses : ¬ condition '\n') (yesMakes : ∀ character, Makes text start (yes character))
    (noMakes : ∀ character, Makes text start (no character)) :
    Makes text start (peek >>= fun character =>
      if condition character then advance 1 >>= fun _ => yes character else no character) := by
  refine fun state tracks => .peek ?_
  split
  next satisfies =>
    have onLine := tracks.movedOver fun isFeed => refuses (isFeed ▸ satisfies)
    exact .advance ((yesMakes _).behind tracks onLine)
  next => exact noMakes _ state tracks

end Makes

variable {start : Nat}

theorem makes_tokenFrom (kind : TokenKind) (value : String) :
    Makes text start (tokenFrom kind value start) := fun _ tracks => ⟨tracks.onLine, rfl, rfl⟩

theorem makes_wordFrom (kind : TokenKind) (codes : List Nat) :
    Makes text start (wordFrom kind codes start) := fun _ tracks => ⟨tracks.onLine, rfl, rfl⟩

/-- A numeral ends with its last digit, if it has one. -/
theorem makes_numeral {digits : Prop} [Decidable digits] (refused : Char → Bool) (value : String) :
    Makes text start (do
      if digits then failAtCursor
      endNumeral refused
      tokenFrom .number value start) :=
  have ending : Makes text start (do
      endNumeral refused
      tokenFrom .number value start) :=
    .andThen (reads_endNumeral refused) fun _ => makes_tokenFrom .number value
  .either (.andThen (.failAtCursor _) fun _ => ending) ending

theorem makes_readRadix (base : Nat) {isDigit : Char → Bool} (refuses : isDigit '\n' = false)
    (refused : Char → Bool) : Makes text start (readRadix base isDigit refused start) :=
  .andThen (reads_takeWhile refuses) fun _ => makes_numeral refused _

theorem makes_readDecimal (startsName : Char → Bool) :
    Makes text start (readDecimal startsName start) := by
  have digits : Reads text (takeWhile Text.isDecimalDigit) := reads_takeWhile (by decide)
  refine .andThen digits fun whole =>
    .peekIf (by decide) (fun _ => .andThen digits fun fraction => ?_) fun _ => ?_
  all_goals
    refine .peekIf (by decide) (fun _ => .peekIf (by decide) (fun _ => .andThen digits fun _ => ?_)
      fun _ => .andThen digits fun _ => ?_) fun _ => .andThen (reads_endNumeral _) fun _ => ?_
    · exact makes_numeral _ _
    · exact makes_numeral _ _
    · exact makes_tokenFrom _ _

end ScriptCheck.Classic
