import ScriptCheck.Proofs.Lines.Statement
import ScriptCheck.Proofs.RecordOrigin
import ScriptCheck.Proofs.Text.DigitReading

/-!
# Lines of messages and of records

The message of a syntax error names a line, and its record has a line of its own. With the modern
grammar both are the line of the problem. The classic grammar counts the lines of a source with a
suffix behind it, while the record has the line of an offset in the source alone, so where a run
failed behind the source the message may name the line behind it.
-/

namespace ScriptCheck

open Grammar

section

variable {limits : Limits} {source : List Char}

namespace Classic

/-- Within the source the suffix makes no difference. -/
theorem position_append {offset : Nat} (within : offset ≤ source.length) :
    Text.position (source ++ State.suffix) offset = Text.position source offset := by
  simp only [Text.position, Int.toNat_natCast, List.take_append_of_le_length within]

theorem foldl_advance_line {rest : List Char} (noFeed : '\n' ∉ rest) (place : Text.Place) :
    (rest.foldl Text.Place.advance place).line = place.line := by
  induction rest generalizing place with
  | nil => rfl
  | cons character rest inductionHypothesis =>
      rw [List.mem_cons, not_or] at noFeed
      rw [List.foldl_cons, inductionHypothesis noFeed.2, Text.Place.advance,
        if_neg (Ne.symm noFeed.1)]

/-- Behind the source its last line goes on for one character, and then comes the next one. -/
theorem position_behind {offset : Nat} (behind : source.length < offset) :
    let last := Text.position source source.length
    Text.position (source ++ State.suffix) offset = ⟨last.line, last.column + 1⟩ ∨
      lineOf (source ++ State.suffix) offset = last.line + 1 := by
  intro last
  obtain ⟨further, rfl⟩ := Nat.exists_eq_add_of_lt behind
  have taken : Text.position (source ++ State.suffix) ((source.length + further + 1 : Nat) : Int) =
      (State.suffix.take (further + 1)).foldl Text.Place.advance last := by
    simp only [Text.position, Int.toNat_natCast, last, Nat.add_assoc, List.take_length_add_append,
      List.foldl_append, List.take_length]
  cases further with
  | zero => exact .inl taken
  | succ further =>
      right
      rw [lineOf, taken]
      have rest : (State.suffix.take (further + 1 + 1)).foldl Text.Place.advance last =
          ((" ; //END".toList).take further).foldl Text.Place.advance ⟨last.line + 1, 1⟩ := rfl
      rw [rest, foldl_advance_line]
      exact fun isFeed => absurd (List.mem_of_mem_take isFeed) (by decide)

/-- A run that fails names its line. -/
theorem failure_names
    (feeds : ∀ character ∈ source, isLineEnd character = true → character = '\n')
    {failure : Failure} (fails : failure? limits source = some failure) :
    failure.NamesLine (source ++ State.suffix) := by
  have ends : Ends (source ++ State.suffix) _ (program limits (.initial limits source)) :=
    ends_program feeds
  unfold failure? at fails
  cases ended : program limits (.initial limits source) with
  | ok _ after =>
      rw [ended] at fails
      cases fails
  | error _ after =>
      rw [ended] at ends fails
      cases fails
      exact ends

/-- A complaint about a place behind the source is about its last place. It names the line there or
the one of the characters behind it. -/
theorem Failure.NamesLine.place_behind {line offset : Nat} {found : Complaint}
    (names : (Failure.complaint line offset found).NamesLine (source ++ State.suffix))
    (behind : source.length < offset) :
    let place := Text.position source offset
    place = Text.position source source.length ∧
      (place.line = line ∨ line = place.line + 1 ∨
        (spansLines found = true ∧ place.line < line)) := by
  intro place
  have isLast : place = Text.position source source.length := by
    simp only [place, Text.position, Int.toNat_natCast, List.take_length,
      List.take_of_length_le (Nat.le_of_lt behind)]
  have place_behind := position_behind behind
  rw [← isLast] at place_behind ⊢
  refine ⟨rfl, ?_⟩
  have line_cases : lineOf (source ++ State.suffix) offset = place.line ∨
      lineOf (source ++ State.suffix) offset = place.line + 1 := by
    refine place_behind.imp_left fun same => ?_
    rw [lineOf, same]
  rcases names with named | ⟨spanning, line_le⟩ | ⟨cuts, stands⟩
  · rcases line_cases with same | next
    · exact .inl (same.symm.trans named)
    · exact .inr (.inl (named.symm.trans next))
  · rcases Nat.lt_or_ge place.line line with earlier | later
    · exact .inr (.inr ⟨spanning, earlier⟩)
    · left
      omega
  · left
    rcases place_behind with same | next
    · -- Behind the last line no character starts a line.
      have column_pos : 1 ≤ place.column :=
        isLast ▸ (Text.position_standsAt (Nat.le_refl source.length)).column_pos
      rw [stands, Text.Place.mk.injEq] at same
      omega
    · rw [lineOf, stands] at next
      exact (Nat.succ.inj next).symm

/-- A complaint about a place in the source names its line, unless a token stretches over lines or a
line feed cuts one off. -/
theorem Failure.NamesLine.place_within {line offset : Nat} {found : Complaint}
    (names : (Failure.complaint line offset found).NamesLine (source ++ State.suffix))
    (within : offset ≤ source.length) :
    let place := Text.position source offset
    place.line = line ∨ (spansLines found = true ∧ place.line < line) ∨
      (cutsOff found = true ∧ place = ⟨line + 1, 1⟩) := by
  intro place
  have same : Text.position (source ++ State.suffix) offset = place := position_append within
  rcases names with named | ⟨spanning, line_le⟩ | ⟨cuts, stands⟩
  · left
    rw [← named, lineOf, same]
  · rw [lineOf, same] at line_le
    rcases Nat.lt_or_eq_of_le line_le with earlier | equal
    · exact .inr (.inl ⟨spanning, earlier⟩)
    · exact .inl equal
  · exact .inr (.inr ⟨cuts, same ▸ stands⟩)

/-- The line that a complaint names, and the place in the source of its offset. -/
theorem Failure.NamesLine.place {line offset : Nat} {found : Complaint}
    (names : (Failure.complaint line offset found).NamesLine (source ++ State.suffix)) :
    let place := Text.position source offset
    place.line = line ∨
      (place = Text.position source source.length ∧ line = place.line + 1) ∨
      (spansLines found = true ∧ place.line < line) ∨
      (cutsOff found = true ∧ place = ⟨line + 1, 1⟩) := by
  intro place
  rcases Nat.lt_or_ge source.length offset with behind | within
  · obtain ⟨isLast, same | next | spanning⟩ := names.place_behind behind
    · exact .inl same
    · exact .inr (.inl ⟨isLast, next⟩)
    · exact .inr (.inr (.inl spanning))
  · rcases names.place_within within with same | spanning | cuts
    · exact .inl same
    · exact .inr (.inr (.inl spanning))
    · exact .inr (.inr (.inr cuts))

end Classic

end

/-- A text is cut in one way where its first colon stands. -/
theorem cut_at_colon {first other rest others : String} (noColon : ':' ∉ first.toList)
    (othersNone : ':' ∉ other.toList) (same : first ++ ": " ++ rest = other ++ ": " ++ others) :
    first = other ∧ rest = others := by
  have characters : first.toList ++ ':' :: (' ' :: rest.toList) =
      other.toList ++ ':' :: (' ' :: others.toList) := by
    simpa using congrArg String.toList same
  have cut (before behind : List Char) (none : ':' ∉ before) :
      (before ++ ':' :: behind).takeWhile (· != ':') = before := by
    rw [List.takeWhile_append_of_pos fun character isPart => ?_]
    · simp
    · exact bne_iff_ne.2 fun isColon => none (isColon ▸ isPart)
  have firstSame : first.toList = other.toList := by
    rw [← cut first.toList _ noColon, characters, cut other.toList _ othersNone]
  rw [firstSame, List.append_cancel_left_eq] at characters
  exact ⟨String.toList_injective firstSame,
    String.toList_injective (List.cons.inj (List.cons.inj characters).2).2⟩

/-- The line that a message names is a number, in which no colon stands. -/
theorem line_noColon (line : Nat) :
    ':' ∉ ("Line " ++ String.ofList (Text.decimal line)).toList := by
  have digits : (String.ofList (Text.decimal line)).toList = Text.decimal line :=
    String.toList_ofList
  rw [String.toList_append, digits, List.mem_append, not_or]
  exact ⟨by decide, fun isDigit => absurd (Text.mem_decimal isDigit) (by decide)⟩

/-- A message names one line. -/
theorem line_eq_of_text {line named : Nat} {found : Complaint} {shown : String}
    (same : found.text line = "Line " ++ String.ofList (Text.decimal named) ++ ": " ++ shown) :
    line = named ∧ found.message = shown := by
  obtain ⟨lines, messages⟩ := cut_at_colon (line_noColon line) (line_noColon named) same
  refine ⟨?_, messages⟩
  have digits : Text.decimal line = Text.decimal named := by
    simpa using congrArg String.toList lines
  rw [← Text.readDigits_decimal line, digits, Text.readDigits_decimal]

/-- Where every line end of a source is a line feed, a record of a syntax error has the line that
its message names. There are three exceptions, all of the classic grammar. What is wrong behind the
source is placed at its end, and may be on the line behind that. A complaint about a text or a piece
of a template that line feeds stand in, or about a feature that is not supported, names the line on
which reading had ended; the record has the line on which it started. And where a line feed cuts off
a text or a regular expression, the record is placed behind the line feed, at the start of the line
behind the one that is named. -/
theorem message_names_line (limits : Limits) (source : List Char)
    (feeds : ∀ character ∈ source, isLineEnd character = true → character = '\n')
    (setting : Setting) (dialect : Dialect) (result : Result)
    (given : ((Grammars.standard limits).check source setting dialect.name).outcome = .ok result)
    (record : Record) (listed : record ∈ result.records) (named : Nat) (shown : String)
    (message : record.message = .text (dialect.errorClass ++ ": " ++
      ("Line " ++ String.ofList (Text.decimal named) ++ ": " ++ shown))) :
    record.line = .int named ∨
      (dialect = .classic ∧ ∃ (place : Text.Place) (found : Complaint),
        record = .ofPlace place.line place.column
          (dialect.errorClass ++ ": " ++ found.text named) ∧
        ((place = Text.position source source.length ∧ named = place.line + 1) ∨
          (Classic.spansLines found = true ∧ place.line < named) ∨
          (Classic.cutsOff found = true ∧ place = ⟨named + 1, 1⟩))) := by
  have notCrash : ¬ record.IsOfCrash limits := by
    rintro ⟨crash, isCrash, crashMessage⟩
    have others : ∀ crash ∈ crashMessages limits,
        ¬ dialect.errorClass.toList <+: crash.toList := by
      cases dialect <;> simp [crashMessages, Dialect.errorClass]
    rw [message, Value.text.injEq] at crashMessage
    refine others crash isCrash (crashMessage ▸ ?_)
    rw [String.toList_append, String.toList_append, List.append_assoc]
    exact List.prefix_append _ _
  cases dialect with
  | modern =>
      obtain ⟨problem, rfl⟩ := (Modern.record_cases given listed).resolve_right notCrash
      have same : "Error" ++ ": " ++ problem.text = "Error" ++ ": " ++ _ := Value.text.inj message
      obtain ⟨named_eq, -⟩ := line_eq_of_text (cut_at_colon (by decide) (by decide) same).2
      exact .inl (congrArg (fun line : Nat => Value.int line) named_eq)
  | classic =>
      obtain ⟨line, offset, found, fails, rfl⟩ :=
        (Classic.record_cases given listed).resolve_right notCrash
      have same : "JsSyntaxError" ++ ": " ++ found.text line = "JsSyntaxError" ++ ": " ++ _ :=
        Value.text.inj message
      obtain ⟨rfl, -⟩ := line_eq_of_text (cut_at_colon (by decide) (by decide) same).2
      rcases (Classic.failure_names feeds fails).place with same | behind | spans | cuts
      · exact .inl (congrArg (fun line : Nat => Value.int line) same)
      · exact .inr ⟨rfl, _, found, rfl, .inl behind⟩
      · exact .inr ⟨rfl, _, found, rfl, .inr (.inl spans)⟩
      · exact .inr ⟨rfl, _, found, rfl, .inr (.inr cuts)⟩

/-- A bracket that closes nothing is on the second line of its source, and the message says so. -/
theorem closing_bracket_line_named :
    (∀ character ∈ ['\n', ')'], isLineEnd character = true → character = '\n') ∧
    ∃ record : Record,
      ((Grammars.standard .usual).check ['\n', ')'] {} Dialect.classic.name).outcome =
        .ok (.failure record) ∧
      record.message = .text "JsSyntaxError: Line 2: Unexpected token )" ∧
      record.line = .int 2 := by
  have feeds : ∀ character ∈ ['\n', ')'], isLineEnd character = true → character = '\n' := by decide
  have fails : Classic.failure? .usual ['\n', ')'] =
      some (.complaint 2 1 (.unexpectedToken ")")) := by decide +kernel
  have given : ((Grammars.standard .usual).check ['\n', ')'] {} Dialect.classic.name).outcome =
      .ok (.failure (.ofPlace 2 1 "JsSyntaxError: Line 2: Unexpected token )")) :=
    Classic.check_of_complaint fails
  refine ⟨feeds, _, given, rfl, ?_⟩
  rcases message_names_line _ _ feeds {} .classic _ given _ (.head _) 2 "Unexpected token )" rfl
    with named | ⟨-, place, found, same, exception⟩
  · exact named
  · have line_eq : (2 : Int) = place.line := Value.int.inj (congrArg Record.line same)
    rcases exception with ⟨-, later⟩ | ⟨-, later⟩ | ⟨-, rfl⟩
    · omega
    · omega
    · cases line_eq

/-- A text over two lines where no text belongs: the record has the line of its start, the message
that of its end. -/
example :
    ((Grammars.standard .usual).check "var \"a\\\nb\"".toList {} Dialect.classic.name).outcome =
    .ok (.failure (.ofPlace 1 5 "JsSyntaxError: Line 2: Unexpected string")) := by
  have fails : Classic.failure? .usual "var \"a\\\nb\"".toList =
      some (.complaint 2 4 .unexpectedString) := by decide +kernel
  exact Classic.check_of_complaint fails

/-- A text that a line feed cuts off. -/
example :
    ((Grammars.standard .usual).check "\"abc\n".toList {} Dialect.classic.name).outcome =
    .ok (.failure (.ofPlace 2 1 "JsSyntaxError: Line 1: Unexpected token ILLEGAL")) := by
  have fails : Classic.failure? .usual "\"abc\n".toList = some (.complaint 1 5 .illegal) := by
    decide +kernel
  exact Classic.check_of_complaint fails

/-- An open bracket at the end of a source of one line: the suffix is complained about, on its
second line. So the line of a record need not be the one that its message names. -/
theorem not_all_messages_name_line :
    ¬ ∀ (source : List Char),
      (∀ character ∈ source, isLineEnd character = true → character = '\n') →
      ∀ (setting : Setting) (dialect : Dialect) (result : Result),
        ((Grammars.standard .usual).check source setting dialect.name).outcome = .ok result →
        ∀ record ∈ result.records, ∀ (named : Nat) (shown : String),
          record.message = .text (dialect.errorClass ++ ": " ++
            ("Line " ++ String.ofList (Text.decimal named) ++ ": " ++ shown)) →
          record.line = .int named := by
  intro all
  have fails : Classic.failure? .usual ['a', '('] =
      some (.complaint 2 5 (.unexpectedToken ";")) := by decide +kernel
  have given : ((Grammars.standard .usual).check ['a', '('] {} Dialect.classic.name).outcome =
      .ok (.failure (.ofPlace 1 3 "JsSyntaxError: Line 2: Unexpected token ;")) :=
    Classic.check_of_complaint fails
  have named :=
    all ['a', '('] (by decide) {} .classic _ given _ (.head _) 2 "Unexpected token ;" rfl
  cases named

end ScriptCheck
