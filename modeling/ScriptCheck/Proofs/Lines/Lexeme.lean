import ScriptCheck.Proofs.Lines.Characters

/-!
# Lines while tokens are read

A token names the line on which the cursor stands behind it. Only texts and pieces of templates may
have started on an earlier one.
-/

namespace ScriptCheck.Classic

open ScriptCheck.Grammar

variable {text : List Char} {α β : Type} {state before after : State}

/-- The characters of the source stay the same. -/
theorem State.OnLine.characterAt_eq (onLine : before.OnLine text after) (index : Nat) :
    after.characterAt index = before.characterAt index := by
  unfold State.characterAt
  rw [onLine.same]

/-- Which braces are open makes no difference. -/
theorem State.Follows.nested (follows : before.Follows text after) (braces : List Brace) :
    before.Follows text { after with braces } where
  same := by rw [follows.same]
  cursor := follows.cursor
  line_le := follows.line_le

/-- A number is read from a digit or a point on. -/
theorem ends_readNumber (tracks : state.Tracks text)
    (noFeed : state.characterAt state.cursor.index ≠ '\n') (startsName : Char → Bool) :
    Ends text (fun token after => state.OnLine text after ∧ token.start = state.cursor.index ∧
      token.line = after.cursor.line) (readNumber startsName state) := by
  have marked {mark : Char} (notFeed : mark ≠ '\n')
      (isMark : state.characterAt (state.cursor.index + 1) = mark) :
      state.OnLine text (state.movedTo (state.cursor.index + 2)) := by
    refine tracks.movedOn 2 fun step before => ?_
    obtain rfl | rfl : step = 0 ∨ step = 1 := by omega
    · exact noFeed
    · exact isMark ▸ notFeed
  refine .getCursor (.peekAt (.peek ?_))
  split
  · split
    next isMark =>
      have onLine := isMark.elim (marked (by decide)) (marked (by decide))
      exact .advance ((makes_readRadix _ rfl _).behind tracks onLine)
    next =>
      split
      next isMark =>
        have onLine := isMark.elim (marked (by decide)) (marked (by decide))
        exact .advance ((makes_readRadix _ rfl _).behind tracks onLine)
      next =>
        split
        next isMark =>
          have onLine := isMark.elim (marked (by decide)) (marked (by decide))
          exact .advance ((makes_readRadix _ rfl _).behind tracks onLine)
        next =>
          refine .getState (.slice ?_)
          split
          · exact .advance (((makes_readRadix _ rfl _).behind tracks
              (tracks.movedOver noFeed)).bind fun _ _ made => made)
          · exact makes_readDecimal _ state tracks
  · exact makes_readDecimal _ state tracks

theorem reads_fourDigitEscape (fits : Char → Bool) : Reads text (fourDigitEscape fits) := by
  refine .bind (reads_hexEscape 4 0) fun found state tracks => ?_
  cases found with
  | none => exact .failAtCursor tracks
  | some code =>
      dsimp only
      split
      · exact .failAtCursor_bind tracks
      · exact tracks.onLine

theorem reads_nameEscape (fits : Char → Bool) : Reads text (nameEscape fits) := by
  refine fun state tracks => .peek ?_
  split
  · exact .failAtCursor_bind tracks
  next isLetter =>
    have onLine := tracks.movedOver (by rw [not_not.1 isLetter]; decide)
    exact .advance ((reads_fourDigitEscape fits).behind tracks onLine)

theorem continues_refuses : continuesClassicName '\n' = false := by decide

/-- A name with escapes is read from a character on that is no line feed. -/
theorem ends_readEscaped (tracks : state.Tracks text)
    (noFeed : state.characterAt state.cursor.index ≠ '\n') :
    Ends text (fun _ => state.OnLine text) (names.readEscaped state) := by
  have turn (codes : List Nat) : Reads text (do
      if ← atEnd then return .inr codes
      let character ← peek
      if !names.continues character then return .inr codes
      advance 1
      if character = '\\' then return .inl ((← names.escape names.continues) :: codes)
      return .inl (character.toNat :: codes) : Parse (List Nat ⊕ List Nat)) := by
    refine fun state tracks => .atEnd ?_
    split
    · exact tracks.onLine
    · refine .peek ?_
      split
      · exact tracks.onLine
      next continues =>
        rw [Bool.not_eq_true', Bool.not_eq_false] at continues
        have onLine := tracks.movedOver (ne_feed continues_refuses continues)
        refine .advance ?_
        split
        · exact (Reads.bind (reads_nameEscape _) fun _ => .pure _).behind tracks onLine
        · exact onLine
  have onLine := tracks.movedOver noFeed
  refine .take ?_
  split
  · exact (Reads.bind (reads_nameEscape _) fun _ => .bind (.iterate turn _) fun _ =>
      .pure _).behind tracks onLine
  · exact (Reads.bind (.pure _) fun _ => .bind (.iterate turn _) fun _ =>
      .pure _).behind tracks onLine

/-- So is any name. -/
theorem ends_readName (tracks : state.Tracks text)
    (noFeed : state.characterAt state.cursor.index ≠ '\n') :
    Ends text (fun _ => state.OnLine text) (names.read state) := by
  have continues : Reads text (takeWhile fun character =>
      names.continues character && character != '\\') := reads_takeWhile (by decide)
  refine .getCursor (.peek ?_)
  split
  · exact ends_readEscaped tracks noFeed
  · refine .advance ((continues.behind tracks (tracks.movedOver noFeed)).bind
      fun rest after onLine => .atEnd (.peek ?_))
    split
    · exact onLine
    · have back := tracks.movedBack onLine
      refine .moveTo ((ends_readEscaped (tracks.of_onLine back) ?_).mono fun _ _ => back.trans)
      rw [back.characterAt_eq]
      exact noFeed

/-- A word is read from a character on that is no line feed. -/
theorem ends_readWord (tracks : state.Tracks text)
    (noFeed : state.characterAt state.cursor.index ≠ '\n') :
    Ends text (fun token after => state.OnLine text after ∧ token.start = state.cursor.index ∧
      token.line = after.cursor.line) (readWord state) := by
  refine .getCursor ((ends_readName tracks noFeed).bind fun codes after onLine => ?_)
  exact ((makes_wordFrom _ _).behind tracks onLine)

/-- No sign holds a line feed. -/
theorem signAt_noFeed {characters : List Char} {sign : String}
    (found : signAt longSigns characters = some sign) :
    sign.toList <+: characters ∧ '\n' ∉ sign.toList ∧ 0 < sign.length := by
  unfold signAt at found
  split at found
  next long isFound =>
    cases found
    have allLong : ∀ sign ∈ longSigns, '\n' ∉ sign.toList ∧ 0 < sign.length := by decide
    have stands := List.find?_some isFound
    exact ⟨List.isPrefixOf_iff_prefix.1 stands, allLong _ (List.mem_of_find?_eq_some isFound)⟩
  next =>
    cases characters with
    | nil => cases found
    | cons first rest =>
        dsimp only at found
        split at found
        next isSign =>
          cases found
          have noFeed : '\n' ≠ first := by
            rintro rfl
            exact absurd isSign (by decide)
          simp [noFeed]
        next => cases found

/-- A sign is read from its first character on, which is no line feed. -/
theorem ends_readSign (tracks : state.Tracks text) :
    Ends text (fun token after => state.OnLine text after ∧ token.start = state.cursor.index ∧
      token.line = after.cursor.line ∧ state.characterAt state.cursor.index ≠ '\n')
      (readSign longSigns state) := by
  refine .getCursor (.slice ?_)
  cases found : signAt longSigns
      (state.source.extract state.cursor.index (state.cursor.index + 4)).toList with
  | none => exact .failAtCursor tracks
  | some sign =>
      obtain ⟨stands, noFeed, nonempty⟩ := signAt_noFeed found
      have noFeed (step : Nat) (inside : step < sign.length) :
          state.characterAt (state.cursor.index + step) ≠ '\n' := by
        intro isFeed
        rw [← String.length_toList] at inside
        have same := (stands.getElem inside).trans (Array.getElem_toList _)
        rw [Array.getElem_extract] at same
        have there : state.source[state.cursor.index + step]? = some sign.toList[step] :=
          Array.getElem?_eq_some_iff.2 ⟨_, same.symm⟩
        rw [State.characterAt, there, Option.getD_some] at isFeed
        exact noFeed (isFeed ▸ List.getElem_mem inside)
      have onLine := tracks.movedOn sign.length noFeed
      dsimp only
      split
      · split
        · exact ⟨⟨rfl, onLine.cursor, rfl⟩, rfl, rfl, noFeed 0 nonempty⟩
        · exact ⟨⟨rfl, onLine.cursor, rfl⟩, rfl, rfl, noFeed 0 nonempty⟩
      · split
        · exact ⟨⟨rfl, onLine.cursor, rfl⟩, rfl, rfl, noFeed 0 nonempty⟩
        · exact ⟨onLine, rfl, rfl, noFeed 0 nonempty⟩

/-- A text in quotation marks is read from its mark on. A line feed cuts it off. -/
theorem ends_readText (tracks : state.Tracks text) {escape : Parse (List Nat × Bool)}
    (escapes : Passes text escape) (noFeed : state.characterAt state.cursor.index ≠ '\n') :
    Ends text (fun token after => state.Follows text after ∧ token.kind = .text ∧
      token.start = state.cursor.index ∧ token.line = after.cursor.line)
      (readText escape (fun _ => failAtCursor) state) := by
  refine .getCursor (.take (.through (fun found after => state.Follows text after ∨
    (found.2.2 = false ∧ after.CutOff text)) (.iterate (fun _ => state.Follows text)
      (tracks.movedOver noFeed).follows (fun _ _ => State.Follows.cursor) ?_) ?_))
  · rintro ⟨codes, octal⟩ before follows
    have tracks := tracks.of_follows follows
    refine .atEnd ?_
    split
    · exact .inl follows
    · refine .take ?_
      split
      next isMark =>
        exact .inl (follows.trans (tracks.movedOver (isMark ▸ noFeed)).follows)
      next =>
        split
        next isEscape =>
          have onLine := tracks.movedOver (by rw [isEscape]; decide)
          refine (escapes.behind tracks onLine.follows).bind ?_
          rintro ⟨escaped, isOctal⟩ after further
          exact follows.trans further
        next =>
          split
          next isEnd => exact .inr ⟨rfl, tracks.cutOff (tracks.eq_feed isEnd)⟩
          next notEnd =>
            exact follows.trans (tracks.movedWithin notEnd).follows
  · rintro ⟨codes, octal, closed⟩ after (follows | ⟨rfl, cutOff⟩)
    · dsimp only
      split
      · exact .failAtCursor_bind (tracks.of_follows follows)
      · exact ⟨follows, rfl, rfl, rfl⟩
    · exact .failCutOff cutOff rfl

/-- A piece of a template is read from its mark or from the brace in front of it on. -/
theorem ends_readTemplate (tracks : state.Tracks text) {escape : Parse Unit}
    (escapes : Passes text escape) (noFeed : state.characterAt state.cursor.index ≠ '\n') :
    Ends text (fun token after => state.Follows text after ∧ token.kind = .template ∧
      token.start = state.cursor.index ∧ token.line = after.cursor.line)
      (readTemplate escape state) := by
  refine .getCursor (.take (.through (fun _ => state.Follows text) (.iterate
    (fun _ => state.Follows text) (tracks.movedOver noFeed).follows
    (fun _ _ => State.Follows.cursor) ?_) ?_))
  · intro _ before follows
    have tracks := tracks.of_follows follows
    refine .atEnd ?_
    split
    · exact follows
    · refine .take ?_
      split
      next isMark => exact follows.trans (tracks.movedOver (by rw [isMark]; decide)).follows
      next =>
        refine .peek ?_
        split
        next isOpening =>
          have moved := tracks.movedOver (by rw [isOpening.1]; decide)
          have further := (tracks.of_onLine moved).movedOver (by rw [isOpening.2]; decide)
          exact follows.trans ⟨rfl, further.cursor, Nat.le_refl _⟩
        next =>
          split
          next isEscape =>
            have onLine := tracks.movedOver (by rw [isEscape]; decide)
            exact ((escapes.behind tracks onLine.follows).bind fun _ _ further =>
              follows.trans further)
          next =>
            split
            next isEnd =>
              exact .bind (.endLine tracks isEnd) fun _ _ further => follows.trans further
            next notEnd =>
              exact follows.trans (tracks.movedWithin notEnd).follows
  · intro ending after follows
    dsimp only
    split
    · exact .failAtCursor_bind (tracks.of_follows follows)
    · split
      · exact ⟨follows.nested _, rfl, rfl, rfl⟩
      · exact ⟨follows, rfl, rfl, rfl⟩

theorem reads_digitEscape (letter : Char) : Reads text (digitEscape letter) := by
  refine fun state tracks => .peek ?_
  split
  next opens =>
    have onLine := tracks.movedOver (by rw [opens]; decide)
    exact .advance ((Reads.bind reads_bracedEscape fun _ => .pure _).behind tracks onLine)
  next => exact reads_hexEscape _ _ state tracks

theorem passes_textEscape : Passes text textEscape := by
  refine fun state tracks => .take ?_
  split
  next isEnd =>
    exact .bind (.endLine tracks isEnd) fun _ _ follows => follows
  next notEnd =>
    have onLine := tracks.movedWithin notEnd
    dsimp only
    split
    next =>
      refine ((reads_digitEscape _).behind tracks onLine).bind fun code after onLine => ?_
      cases code with
      | some code => exact onLine.follows
      | none => exact .failAtCursor_bind (tracks.of_onLine onLine)
    next =>
      cases simpleEscape? (state.characterAt state.cursor.index) with
      | some code => exact onLine.follows
      | none =>
          dsimp only
          split
          next =>
            refine ((reads_octalEscape _).behind tracks onLine).bind ?_
            rintro ⟨code, octal⟩ after onLine
            exact onLine.follows
          next => exact onLine.follows

/-- A complaint behind the last token names its line. -/
theorem Ends.failBehind (tracks : state.Tracks text) {complaint : Complaint}
    {goal : α → State → Prop} :
    Ends text goal ((Classic.failBehind complaint : Parse α) state) := .inl tracks.lastPlace.symm

theorem passes_templateEscape : Passes text templateEscape := by
  refine fun state tracks => .take ?_
  split
  next isEnd => exact .endLine tracks isEnd
  next notEnd =>
    have onLine := tracks.movedWithin notEnd
    have tracksLetter := tracks.of_onLine onLine
    split
    next =>
      refine .getCursor ((reads_digitEscape _ _ tracksLetter).bind fun code after further => ?_)
      split
      · exact (onLine.trans (tracksLetter.movedBack further)).follows
      · exact (onLine.trans further).follows
    next =>
      split
      next =>
        refine .peek ?_
        split
        · exact .failBehind tracksLetter
        · exact onLine.follows
      next =>
        split
        · exact .failBehind tracksLetter
        · exact onLine.follows

/-- The body of a regular expression is read from its opening slash on. A line feed cuts it off. -/
theorem ends_readPatternBody (tracks : state.Tracks text)
    (noFeed : state.characterAt state.cursor.index ≠ '\n') :
    Ends text (fun _ => state.OnLine text) (readPatternBody state) := by
  refine .advance (.through (fun _ => state.OnLine text) (.iterate
    (fun _ => state.OnLine text) (tracks.movedOver noFeed) (fun _ _ => State.OnLine.cursor) ?_) ?_)
  · rintro ⟨body, inClass⟩ before onLine
    have tracks := tracks.of_onLine onLine
    refine .atEnd ?_
    split
    · exact onLine
    · refine .take ?_
      dsimp only
      split
      next isEnd => exact .failCutOff (tracks.cutOff (tracks.eq_feed isEnd)) rfl
      next notEnd =>
        have moved := tracks.movedWithin notEnd
        have onLine := onLine.trans moved
        have tracks := tracks.of_onLine moved
        split
        · refine .take ?_
          split
          next isEnd => exact .failCutOff (tracks.cutOff (tracks.eq_feed isEnd)) rfl
          next notEnd =>
            exact onLine.trans (tracks.movedWithin notEnd)
        · split
          · exact onLine
          · split <;> exact onLine
  · rintro ⟨body, closed⟩ after onLine
    dsimp only
    split
    · exact .failAtCursor_bind (tracks.of_onLine onLine)
    · exact onLine

theorem reads_readPatternFlags : Reads text readPatternFlags := by
  refine .iterate (fun _ state tracks => .atEnd ?_) ()
  split
  · exact tracks.onLine
  · refine .peek ?_
    split
    · exact tracks.onLine
    next continues =>
      rw [Bool.not_eq_true', Bool.not_eq_false] at continues
      have onLine := tracks.movedOver (ne_feed continues_refuses continues)
      have tracks := tracks.of_onLine onLine
      refine .advance (.atEnd ?_)
      dsimp only
      split
      next =>
        refine .peek ?_
        split
        next isLetter =>
          have tracks := tracks.of_onLine (tracks.movedOver (by rw [isLetter]; decide))
          refine .advance (.getCursor
            ((reads_hexEscape 4 0 _ tracks).bind fun code after further => ?_))
          split
          next => exact .moveTo (.failAtCursor_bind (tracks.of_onLine (tracks.movedBack further)))
          next => exact .failAtCursor_bind (tracks.of_onLine further)
        next => exact .failAtCursor_bind tracks
      next => exact onLine

/-- Gaps are skipped line by line. -/
theorem ends_skipToToken (tracks : state.Tracks text) :
    Ends text (fun _ after => after.Tracks text ∧ after.lastPlace = state.lastPlace ∧
      state.cursor.line ≤ after.cursor.line) (skipToToken state) := by
  refine .getCursor ((passes_skipGap true (Reads.failAtCursor _).passes state tracks).bind
    fun _ after follows => ⟨{ tracks.of_follows follows with }, ?_, follows.line_le⟩)
  show after.lastPlace = state.lastPlace
  rw [follows.same]

/-- A token that was read from one state up to another. -/
structure HasRead (text : List Char) (before : State) (token : Token) (after : State) : Prop where
  follows : before.Follows text after
  names : NamesLine text token
  start_eq : token.start = before.cursor.index
  line_eq : token.line = after.cursor.line

/-- A token within a line names it. -/
theorem HasRead.of_onLine {token : Token} (tracks : before.Tracks text)
    (noFeed : before.characterAt before.cursor.index ≠ '\n') (onLine : before.OnLine text after)
    (start_eq : token.start = before.cursor.index) (line_eq : token.line = after.cursor.line) :
    HasRead text before token after := by
  have same : lineOf text token.start = token.line := by
    rw [start_eq, line_eq, onLine.line_eq, tracks.cursor]
  refine ⟨onLine.follows, ⟨Nat.le_of_eq same, fun _ => same, ?_⟩, start_eq, line_eq⟩
  rw [start_eq]
  exact fun isFeed => noFeed (tracks.getElem?_eq_feed.1 isFeed)

/-- A token that may stretch over lines names the last of them. -/
theorem HasRead.of_follows {token : Token} (tracks : before.Tracks text)
    (noFeed : before.characterAt before.cursor.index ≠ '\n') (follows : before.Follows text after)
    (isSpan : spans token = true) (start_eq : token.start = before.cursor.index)
    (line_eq : token.line = after.cursor.line) : HasRead text before token after := by
  refine ⟨follows, ⟨?_, ?_, ?_⟩, start_eq, line_eq⟩
  · rw [start_eq, line_eq, ← tracks.cursor]
    exact follows.line_le
  · rw [isSpan]
    exact fun single => nomatch single
  · rw [start_eq]
    exact fun isFeed => noFeed (tracks.getElem?_eq_feed.1 isFeed)

/-- A step that stays on the line reads a token on it. -/
theorem Ends.hasRead (tracks : state.Tracks text)
    (noFeed : state.characterAt state.cursor.index ≠ '\n') {step : Parse Token}
    (ends : Ends text (fun token after => state.OnLine text after ∧
      token.start = state.cursor.index ∧ token.line = after.cursor.line) (step state)) :
    Ends text (HasRead text state) (step state) :=
  ends.mono fun _ _ made => .of_onLine tracks noFeed made.1 made.2.1 made.2.2

theorem hasRead_readSign (tracks : state.Tracks text) :
    Ends text (HasRead text state) (readSign longSigns state) :=
  (ends_readSign tracks).mono fun _ _ made =>
    .of_onLine tracks made.2.2.2 made.1 made.2.1 made.2.2.1

theorem hasRead_readTemplate (tracks : state.Tracks text)
    (noFeed : state.characterAt state.cursor.index ≠ '\n') :
    Ends text (HasRead text state) (readTemplate templateEscape state) :=
  (ends_readTemplate tracks passes_templateEscape noFeed).mono fun _ _ made =>
    .of_follows tracks noFeed made.1 (by simp [spans, made.2.1]) made.2.2.1 made.2.2.2

theorem hasRead_readText (tracks : state.Tracks text)
    (noFeed : state.characterAt state.cursor.index ≠ '\n') :
    Ends text (HasRead text state) (readText textEscape (fun _ => failAtCursor) state) :=
  (ends_readText tracks passes_textEscape noFeed).mono fun _ _ made =>
    .of_follows tracks noFeed made.1 (by simp [spans, made.2.1]) made.2.2.1 made.2.2.2

/-- No line feed stands at the end of the program. -/
theorem noFeed_atEnd (tracks : state.Tracks text)
    (atEnd : decide (state.source.size ≤ state.cursor.index) = true) :
    state.characterAt state.cursor.index ≠ '\n' := by
  intro isFeed
  have inside := (List.getElem?_eq_some_iff.1 (tracks.getElem?_eq_feed.2 isFeed)).1
  rw [decide_eq_true_eq, tracks.source, List.size_toArray] at atEnd
  exact Nat.not_lt_of_le atEnd inside

/-- A token names the line of the cursor behind it. -/
theorem ends_readToken (tracks : state.Tracks text) :
    Ends text (HasRead text state) (readToken state) := by
  refine .atEnd ?_
  split
  next atEnd =>
    exact .getCursor
      (.hasRead tracks (noFeed_atEnd tracks atEnd) (makes_tokenFrom _ _ state tracks))
  next =>
    refine .peek ?_
    split
    next starts =>
      have noFeed := ne_feed (by decide) starts
      exact .hasRead tracks noFeed (ends_readWord tracks noFeed)
    next =>
      split
      next isMark =>
        refine hasRead_readText tracks ?_
        rcases isMark with isMark | isMark <;> rw [isMark] <;> decide
      next =>
        split
        next isDigit =>
          have noFeed := ne_feed rfl isDigit
          exact .hasRead tracks noFeed (ends_readNumber tracks noFeed _)
        next =>
          refine .peekAt ?_
          split
          next isPoint =>
            have noFeed : state.characterAt state.cursor.index ≠ '\n' := by
              rw [isPoint.1]
              decide
            exact .hasRead tracks noFeed (ends_readNumber tracks noFeed _)
          next =>
            split
            next isMark => exact hasRead_readTemplate tracks (by rw [isMark]; decide)
            next =>
              split
              next isBrace =>
                refine .getBraces ?_
                match state.braces with
                | [] => trivial
                | .template :: _ => exact hasRead_readTemplate tracks (by rw [isBrace]; decide)
                | .plain :: _ => exact hasRead_readSign tracks
              next => exact hasRead_readSign tracks

end ScriptCheck.Classic
