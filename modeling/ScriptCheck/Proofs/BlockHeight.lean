import ScriptCheck.Proofs.LibraryCall
import ScriptCheck.Proofs.RecordOrigin
import ScriptCheck.Proofs.ReportReading

/-!
# Heights of blocks

A block has five lines and as many more as line feeds stand in its message. The wording of every
complaint is on one line, but most complaints about a token or a name show a piece of the program,
and nothing takes the line feeds out of that (`Complaint.feeds_message`). So the lines of a report
are five for each record and one for each line feed in what is shown, and the block of a record is
found by counting the line feeds in the messages before it (`report_height`).
-/

namespace ScriptCheck

open Grammar

/-- The number of line feeds in a text. -/
def feeds (text : String) : Nat := text.toList.count '\n'

@[simp] theorem feeds_append (first second : String) :
    feeds (first ++ second) = feeds first + feeds second := by
  simp [feeds]

theorem feeds_eq_zero {text : String} : feeds text = 0 ↔ '\n' ∉ text.toList :=
  List.count_eq_zero

/-- Words are on one line if no line feed is one of their characters. -/
theorem feeds_ofList {characters : List Char} (oneLine : characters.count '\n' = 0) :
    feeds (String.ofList characters) = 0 := by
  rw [feeds, String.toList_ofList, oneLine]

/-- Numbers are on one line. -/
theorem feeds_decimal (number : Nat) : feeds (String.ofList (Text.decimal number)) = 0 :=
  feeds_ofList (List.count_eq_zero.2 fun isDigit => absurd (Text.mem_decimal isDigit) (by decide))

namespace Grammar.Complaint

/-- The piece of the program that a complaint shows, or the word for what it is about. -/
def shown : Complaint → String
  | .unexpectedToken piece | .unexpectedTemplate piece | .duplicateBinding piece
  | .redeclaredLabel piece | .unknownLabel piece => piece
  | .missingInitializer word | .loopInitializer word | .unsupported word => word
  | _ => ""

/-- The wording of a complaint is on one line but for what it shows. -/
theorem feeds_message (found : Complaint) : feeds found.message = feeds found.shown := by
  have behind {before piece : String} (oneLine : feeds before = 0) :
      feeds (before ++ piece) = feeds piece := by
    rw [feeds_append, oneLine, Nat.zero_add]
  have before {piece behind : String} (oneLine : feeds behind = 0) :
      feeds (piece ++ behind) = feeds piece := by
    rw [feeds_append, oneLine, Nat.add_zero]
  cases found with
  | unexpectedToken | unexpectedTemplate | duplicateBinding =>
      exact behind (feeds_ofList (by decide))
  | redeclaredLabel | unknownLabel | missingInitializer =>
      exact (before (feeds_ofList (by decide))).trans (behind (feeds_ofList (by decide)))
  | loopInitializer | unsupported => exact before (feeds_ofList (by decide))
  | _ => exact feeds_ofList (by decide)

/-- The class and the line before the wording are on the same line. -/
theorem feeds_text (dialect : Dialect) (line : Nat) (found : Complaint) :
    feeds (dialect.errorClass ++ ": " ++ found.text line) = feeds found.shown := by
  have className : feeds dialect.errorClass = 0 := by
    cases dialect with
    | modern => exact feeds_ofList (by decide)
    | classic => exact feeds_ofList (by decide)
  have opening : feeds "Line " = 0 := feeds_ofList (by decide)
  have colon : feeds ": " = 0 := feeds_ofList (by decide)
  simp only [text, feeds_append, className, opening, feeds_decimal line, colon, feeds_message,
    Nat.zero_add]

end Grammar.Complaint

/-- The message of a crash is on one line. -/
theorem feeds_crash (limits : Limits) : ∀ message ∈ crashMessages limits, feeds message = 0 := by
  have limit : feeds (excessText limits.mostDigits) = 0 := by
    have number := feeds_decimal limits.mostDigits
    unfold excessText
    generalize String.ofList (Text.decimal limits.mostDigits) = digits at number ⊢
    simp only [feeds_append, number, Nat.add_eq_zero_iff, and_true]
    exact ⟨⟨feeds_ofList (by decide), feeds_ofList (by decide)⟩, feeds_ofList (by decide)⟩
  simp only [crashMessages, List.forall_mem_cons, feeds_append, limit, List.not_mem_nil]
  exact ⟨feeds_ofList (by decide), feeds_ofList (by decide), feeds_ofList (by decide),
    feeds_ofList (by decide), fun _ => False.elim⟩

/-- The line feeds in the message of a diagnostic. -/
def Diagnostic.feeds (diagnostic : Diagnostic) : Nat := ScriptCheck.feeds diagnostic.message

/-- The lines of a report that show a diagnostic. Its message may take more than one. -/
def Diagnostic.reportLines (filepath : String) (lines : List (List Char))
    (diagnostic : Diagnostic) : List (List Char) :=
  Report.shownLine lines diagnostic.line ::
    (List.replicate (diagnostic.column - 1).toNat ' ' ++ ['^']) ::
    (Text.lines diagnostic.message.toList ++
      [Report.locator filepath diagnostic.line diagnostic.column, Report.rule])

namespace Report

variable {filepath : String} {lines : List (List Char)}

/-- A diagnostic takes five lines, and one more for each line feed in its message. -/
theorem length_reportLines (diagnostic : Diagnostic) :
    (diagnostic.reportLines filepath lines).length = 5 + diagnostic.feeds := by
  have message : (Text.lines diagnostic.message.toList).length = diagnostic.feeds + 1 :=
    Text.length_lines _
  simp only [Diagnostic.reportLines, List.length_cons, List.length_append, message,
    List.length_nil]
  omega

/-- The lines of a block come before the lines of what stands behind it. -/
theorem lines_block_append (onLine : '\n' ∉ filepath.toList) (source : List Char)
    (diagnostic : Diagnostic) (rest : List Char) :
    Text.lines (diagnostic.block filepath (Text.lines source) ++ rest) =
      diagnostic.reportLines filepath (Text.lines source) ++ Text.lines rest := by
  unfold Diagnostic.block Diagnostic.blockLines Diagnostic.lowerLines Diagnostic.reportLines
  have caretOnLine := newline_not_mem_caret diagnostic.column
  generalize List.replicate (diagnostic.column - 1).toNat ' ' ++ ['^'] = caret at caretOnLine ⊢
  simp only [List.flatMap_cons, List.flatMap_nil, List.append_assoc, List.cons_append,
    List.nil_append]
  rw [Text.lines_append_newline (newline_not_mem_shownLine source _),
    Text.lines_append_newline caretOnLine, Text.lines_append_feed,
    Text.lines_append_newline (newline_not_mem_locator onLine _ _),
    Text.lines_append_newline newline_not_mem_rule]

/-- The lines of a report are those that show its diagnostics, and an empty one behind the last. -/
theorem lines_flatMap_block (onLine : '\n' ∉ filepath.toList) (source : List Char)
    (diagnostics : List Diagnostic) :
    Text.lines (diagnostics.flatMap (Diagnostic.block filepath (Text.lines source))) =
      diagnostics.flatMap (Diagnostic.reportLines filepath (Text.lines source)) ++ [[]] := by
  induction diagnostics with
  | nil => rfl
  | cons diagnostic diagnostics inductionHypothesis =>
      rw [List.flatMap_cons, List.flatMap_cons, lines_block_append onLine, inductionHypothesis,
        List.append_assoc]

theorem length_flatMap_reportLines (diagnostics : List Diagnostic) :
    (diagnostics.flatMap (Diagnostic.reportLines filepath lines)).length =
      5 * diagnostics.length + (diagnostics.map Diagnostic.feeds).sum := by
  induction diagnostics with
  | nil => rfl
  | cons diagnostic diagnostics inductionHypothesis =>
      rw [List.flatMap_cons, List.length_append, inductionHypothesis, length_reportLines,
        List.length_cons, List.map_cons, List.sum_cons]
      omega

/-- The lines that show a diagnostic stand behind those that show the ones before it. -/
theorem take_drop_reportLines {diagnostics : List Diagnostic} {index : Nat}
    {diagnostic : Diagnostic} (listed : diagnostics[index]? = some diagnostic)
    (behind : List (List Char)) :
    ((diagnostics.flatMap (Diagnostic.reportLines filepath lines) ++ behind).drop
        (5 * index + ((diagnostics.take index).map Diagnostic.feeds).sum)).take
          (5 + diagnostic.feeds) =
      diagnostic.reportLines filepath lines := by
  have before : ((diagnostics.take index).flatMap (Diagnostic.reportLines filepath lines)).length =
      5 * index + ((diagnostics.take index).map Diagnostic.feeds).sum := by
    obtain ⟨within, -⟩ := List.getElem?_eq_some_iff.1 listed
    rw [length_flatMap_reportLines, List.length_take_of_le (Nat.le_of_lt within)]
  rw [← before, ← length_reportLines]
  exact take_drop_flatMap (Diagnostic.reportLines filepath lines) listed behind

end Report

/-- What the report on a result is made of. The source must not be longer than a count can be, and
the file path is on one line. A message shows a piece of the program behind words on the line of its
complaint, or it is that of a crash, on one line. So the report has five lines for each record and
one more for each line feed in a piece that a message shows; there are just five for each exactly if
all messages are on one line. The lines that show a record stand behind those of the records before
it. -/
theorem report_height (limits : Limits) (source : List Char)
    (countable : source.length + 2 < 9223372036854775808) (setting : Setting) (dialect : Dialect)
    (result : Result)
    (given : ((Grammars.standard limits).check source setting dialect.name).outcome = .ok result)
    (filepath : String) (onLine : '\n' ∉ filepath.toList) :
    let report := Report.make limits filepath source result.records
    let reportLines := Text.lines report.written
    ∃ diagnostics : List Diagnostic, diagnostics.map Diagnostic.record = result.records ∧
      report.fault = none ∧
      (∀ diagnostic ∈ diagnostics, diagnostic.message ∈ crashMessages limits ∧
          diagnostic.feeds = 0 ∨
        ∃ (line : Nat) (found : Complaint),
          diagnostic.message = dialect.errorClass ++ ": " ++ found.text line ∧
          diagnostic.feeds = feeds found.shown) ∧
      reportLines.length =
        5 * result.records.length + (diagnostics.map Diagnostic.feeds).sum + 1 ∧
      (reportLines.length = 5 * result.records.length + 1 ↔
        ∀ diagnostic ∈ diagnostics, '\n' ∉ diagnostic.message.toList) ∧
      ∀ (index : Nat) (diagnostic : Diagnostic), diagnostics[index]? = some diagnostic →
        (reportLines.drop (5 * index + ((diagnostics.take index).map Diagnostic.feeds).sum)).take
            (5 + diagnostic.feeds) =
          ((Text.lines source)[(diagnostic.line - 1).toNat]?).getD [] ::
            (List.replicate (diagnostic.column - 1).toNat ' ' ++ ['^']) ::
            (Text.lines diagnostic.message.toList ++
              ["    at (".toList ++ filepath.toList ++ ':' :: Text.signedDecimal diagnostic.line ++
                ':' :: Text.signedDecimal diagnostic.column ++ [')'],
                List.replicate 68 '-']) := by
  intro report reportLines
  obtain ⟨diagnostics, records⟩ := Record.exists_diagnostics (Grammars.check_isSound given)
  have fit := CommandLine.standard_fit given records countable
  have report_eq : report =
      ⟨diagnostics.flatMap (Diagnostic.items filepath (Text.lines source)), none⟩ := by
    show Report.make limits filepath source result.records = _
    rw [Report.make, ← records]
    exact Report.ofLines_of_fits _ _ fit
  have lines_eq : reportLines =
      diagnostics.flatMap (Diagnostic.reportLines filepath (Text.lines source)) ++ [[]] := by
    show Text.lines report.written = _
    rw [report_eq, Report.written_items, Report.lines_flatMap_block onLine]
  have height : reportLines.length =
      5 * result.records.length + (diagnostics.map Diagnostic.feeds).sum + 1 := by
    rw [lines_eq, List.length_append, Report.length_flatMap_reportLines, ← records,
      List.length_map, List.length_singleton]
  refine ⟨diagnostics, records, congrArg Report.fault report_eq, fun diagnostic listed => ?_,
    height, ?_, fun index diagnostic listed => ?_⟩
  · have isRecord : diagnostic.record ∈ result.records := records ▸ List.mem_map_of_mem listed
    rcases Record.message_cases given isRecord with
      ⟨line, found, message⟩ | ⟨crash, isCrash, message⟩
    · have message := Value.text.inj message
      refine .inr ⟨line, found, message, ?_⟩
      rw [Diagnostic.feeds, message, Complaint.feeds_text]
    · have message : diagnostic.message = crash := Value.text.inj message
      refine .inl ⟨message ▸ isCrash, ?_⟩
      rw [Diagnostic.feeds, message, feeds_crash limits crash isCrash]
  · rw [height, Nat.add_right_cancel_iff, Nat.add_eq_left, List.sum_eq_zero_iff_forall_eq_nat,
      List.forall_mem_map]
    exact forall₂_congr fun diagnostic _ => feeds_eq_zero
  · rw [lines_eq]
    exact Report.take_drop_reportLines listed _

/-- A tolerant check of a call with two arguments and no comma between them shows the second one, a
text with an escaped line feed. Its block has six lines. -/
theorem shown_text_height :
    let source := "f(1 \"a\\nb\")".toList
    let record := Record.ofPlace 1 5 "Error: Line 1: Unexpected token a\nb"
    ((Grammars.standard .usual).check source {} Dialect.modern.name).outcome =
      .ok (.success [record]) ∧
    source.length + 2 < 9223372036854775808 ∧ '\n' ∉ "a.js".toList ∧
    (Text.lines (Report.make .usual "a.js" source [record]).written).length = 5 + 1 + 1 := by
  intro source record
  have ends : Modern.run .usual source.toArray false =
      (.ok (), [⟨1, 5, .unexpectedToken "a\nb"⟩]) := by decide +kernel
  have given : ((Grammars.standard .usual).check source {} Dialect.modern.name).outcome =
      .ok (.success [record]) := Modern.check_of_run ends rfl
  have countable : source.length + 2 < 9223372036854775808 := by decide +kernel
  have onLine : '\n' ∉ "a.js".toList := by decide
  obtain ⟨diagnostics, records, -, -, height, -⟩ :=
    report_height .usual source countable {} .modern _ given "a.js" onLine
  have shown : diagnostics =
      [⟨1, 5, "Error: Line 1: Unexpected token a\nb", by decide, by decide⟩] :=
    (List.map_inj_right fun _ _ same => Diagnostic.record_injective same).1 records
  rw [shown] at height
  refine ⟨given, countable, onLine, height.trans ?_⟩
  decide +kernel

/-- So it is not true of every source that its messages are on one line each. -/
theorem not_all_messages_on_one_line :
    ¬ ∀ (source : List Char) (setting : Setting) (dialect : Dialect) (result : Result),
      ((Grammars.standard .usual).check source setting dialect.name).outcome = .ok result →
      ∀ record ∈ result.records, ∀ text, record.message = .text text → '\n' ∉ text.toList := by
  intro all
  have ends : Modern.run .usual "f(1 \"a\\nb\")".toList.toArray false =
      (.ok (), [⟨1, 5, .unexpectedToken "a\nb"⟩]) := by decide +kernel
  have oneLine := all _ {} .modern _ (Modern.check_of_run ends rfl) _ (.head _) _ rfl
  exact absurd oneLine (by decide +kernel)

/-- A piece of a template over two lines, which the classic grammar shows. -/
example : ((Grammars.standard .usual).check "var `a\nb`".toList {} Dialect.classic.name).outcome =
    .ok (.failure (.ofPlace 1 5 "JsSyntaxError: Line 2: Unexpected quasi a\nb")) := by
  have fails : Classic.failure? .usual "var `a\nb`".toList =
      some (.complaint 2 4 (.unexpectedTemplate "a\nb")) := by decide +kernel
  exact Classic.check_of_complaint fails

end ScriptCheck
