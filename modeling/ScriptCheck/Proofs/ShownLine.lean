import ScriptCheck.Proofs.Answer

/-!
# Lines that are shown

The modern grammar knows more line ends than a report, which cuts the source at line feeds only. So
the line of a record can lie behind the last line of a report, by as many lines as there are other
line ends in the source: `lines_shown`. A source with line feeds alone, or with carriage returns
before them, has all its records on lines that are there.
-/

namespace ScriptCheck

open Grammar

/-- How many characters end a line of a script but none of a report: line separators, paragraph
separators, and carriage returns without a line feed behind. -/
def strayLineEnds : List Char → Nat
  | [] => 0
  | character :: rest =>
      (if isLineEnd character ∧ character ≠ '\n' ∧
        ¬(character = '\r' ∧ rest.head? = some '\n') then 1 else 0) + strayLineEnds rest

/-- A text of one more character has the line ends of the rest, and perhaps one before them. -/
theorem lineNumber_cons (character : Char) (rest : List Char) :
    lineNumber (character :: rest).toArray (rest.length + 1) =
      lineNumber rest.toArray rest.length +
        if isLineEnd character ∧ ¬(character = '\r' ∧ rest.head? = some '\n') then 1 else 0 := by
  have later (index : Nat) :
      endsLine (character :: rest).toArray (index + 1) = endsLine rest.toArray index := by
    simp [endsLine]
  have first : endsLine (character :: rest).toArray 0 = true ↔
      isLineEnd character ∧ ¬(character = '\r' ∧ rest.head? = some '\n') := by
    by_cases isReturn : character = '\r' <;> simp [endsLine, List.head?_eq_getElem?, isReturn]
  simp only [lineNumber, Nat.count_succ', later, first, Nat.add_assoc]

/-- A report has as many lines as the grammar counts, but for stray line ends. -/
theorem lineNumber_length (source : List Char) :
    lineNumber source.toArray source.length =
      (Text.lines source).length + strayLineEnds source := by
  induction source with
  | nil => rfl
  | cons character rest inductionHypothesis =>
      rw [List.length_cons, lineNumber_cons, inductionHypothesis, strayLineEnds]
      by_cases isBreak : character = '\n'
      · subst isBreak
        have isEnd : isLineEnd '\n' = true := by decide
        simp [isEnd, Text.lines_newline]
        omega
      · have length : (Text.lines (character :: rest)).length = (Text.lines rest).length := by
          rw [Text.lines_cons isBreak, List.length_cons, List.length_tail,
            Nat.sub_add_cancel (Text.lines_length_pos rest)]
        simp only [length, ne_eq, isBreak, not_false_eq_true, true_and]
        omega

/-- The records of the modern grammar stand on lines that it counts. -/
theorem modern_line_le {limits : Limits} {source : List Char} {setting : Setting} {result : Result}
    (given : ((Grammars.standard limits).checkWith source setting .modern).outcome = .ok result) :
    ∀ record ∈ result.records, ∀ line, record.line = .int line →
      line ≤ lineNumber source.toArray source.length := by
  cases found : (Modern.handed limits source setting.tolerant setting.isModule).find?
      Modern.Problem.isMisplaced with
  | some problem => cases given.symm.trans (Modern.result_of_misplaced found)
  | none =>
      obtain ⟨answer, answered, records⟩ := Modern.result_of_placed found
      cases given.symm.trans answered
      intro record listed line isLine
      rcases records with ⟨message, records⟩ | records
      · rw [records] at listed
        obtain rfl := List.mem_singleton.1 listed
        cases isLine
        exact Int.ofNat_le.2 lineNumber_pos
      · rw [records] at listed
        obtain ⟨problem, isProblem, rfl⟩ := List.mem_map.1 listed
        cases isLine
        exact Int.ofNat_le.2 (Modern.handed_placed limits source _ _ problem isProblem).1.2

namespace Report

/-- A report whose lines are all there warns of nothing. -/
theorem events_ofLines_eq_nil (limits : Limits) (filepath : String) {lines : List (List Char)}
    {diagnostics : List Diagnostic}
    (there : ∀ diagnostic ∈ diagnostics, diagnostic.line ≤ lines.length) :
    (ofLines limits filepath lines (diagnostics.map Diagnostic.record)).events = [] := by
  induction diagnostics with
  | nil => rfl
  | cons diagnostic diagnostics inductionHypothesis =>
      have othersThere := inductionHypothesis fun other later =>
        there other (List.mem_cons_of_mem _ later)
      have noWarning : warnings filepath lines diagnostic.line = [] :=
        if_neg (Int.not_lt.2 (there diagnostic List.mem_cons_self))
      simp only [List.map_cons, ofLines, block, sourceLine_record, noWarning]
      cases remainder limits filepath diagnostic.record with
      | error fault => rfl
      | ok below => simpa [Except.map, events] using othersThere

/-- A line within the source is shown as it is, and a line behind it as an empty one, with a
warning. -/
theorem sourceLine_eq (filepath : String) (lines : List (List Char)) (diagnostic : Diagnostic) :
    sourceLine filepath lines diagnostic.record =
      match lines[(diagnostic.line - 1).toNat]? with
      | some line => ([], .ok line)
      | none => ([.pastTheEnd filepath diagnostic.line lines.length], .ok []) := by
  have positive := diagnostic.line_pos
  rw [sourceLine_record, warnings, shownLine]
  cases found : lines[(diagnostic.line - 1).toNat]? with
  | some line =>
      have within := (List.getElem?_eq_some_iff.1 found).1
      rw [if_neg (by omega)]
      rfl
  | none =>
      have behind := List.getElem?_eq_none_iff.1 found
      rw [if_pos (by omega)]
      rfl

end Report

/-- Records of the modern grammar stand on lines of the source, or behind its last line by no more
lines than there are stray line ends in it. A report shows a line that is there, and an empty line
with a warning for one that is not. Without stray line ends all lines are there, and nothing is
warned of. All this holds on every machine. -/
theorem lines_shown (limits : Limits) (source : List Char) (setting : Setting) {result : Result}
    (given : ((Grammars.standard limits).check source setting Dialect.modern.name).outcome =
      .ok result)
    (filepath : String) :
    ∃ diagnostics : List Diagnostic, diagnostics.map Diagnostic.record = result.records ∧
      (∀ diagnostic ∈ diagnostics, 1 ≤ diagnostic.line ∧
        diagnostic.line ≤ (Text.lines source).length + strayLineEnds source ∧
        Report.sourceLine filepath (Text.lines source) diagnostic.record =
          match (Text.lines source)[(diagnostic.line - 1).toNat]? with
          | some line => ([], .ok line)
          | none => ([.pastTheEnd filepath diagnostic.line (Text.lines source).length], .ok [])) ∧
      (strayLineEnds source = 0 →
        (∀ diagnostic ∈ diagnostics, diagnostic.line ≤ (Text.lines source).length) ∧
        (Report.make limits filepath source result.records).events = []) := by
  obtain ⟨diagnostics, records⟩ := Record.exists_diagnostics (Grammars.check_isSound given)
  rw [Grammars.check_name] at given
  have line_le : ∀ diagnostic ∈ diagnostics,
      diagnostic.line ≤ (Text.lines source).length + strayLineEnds source := by
    intro diagnostic listed
    have isRecord : diagnostic.record ∈ result.records := records ▸ List.mem_map_of_mem listed
    have counted := modern_line_le given _ isRecord diagnostic.line rfl
    rw [lineNumber_length] at counted
    exact counted
  refine ⟨diagnostics, records, fun diagnostic listed =>
    ⟨diagnostic.line_pos, line_le diagnostic listed, Report.sourceLine_eq _ _ _⟩, fun none => ?_⟩
  have there : ∀ diagnostic ∈ diagnostics, diagnostic.line ≤ (Text.lines source).length := by
    simpa [none] using line_le
  rw [Report.make, ← records]
  exact ⟨there, Report.events_ofLines_eq_nil limits filepath there⟩

/-- A parenthesis that is opened behind a line separator is missed at the end of the second line,
and so is the second line of a report, with a warning. -/
theorem line_behind_separator_missing :
    let source : List Char := ['\u2028', '(']
    let result : Result := .failure (.ofPlace 2 2 "Error: Line 2: Unexpected end of input")
    ((Grammars.standard .usual).check source {} Dialect.modern.name).outcome = .ok result ∧
    ∃ diagnostics : List Diagnostic, diagnostics.map Diagnostic.record = result.records ∧
      ∀ diagnostic ∈ diagnostics, diagnostic.line ≤ 1 + strayLineEnds source ∧
        Report.sourceLine "a.js" (Text.lines source) diagnostic.record =
          ([.pastTheEnd "a.js" 2 1], .ok []) := by
  intro source result
  have given : ((Grammars.standard .usual).check ['\u2028', '('] {} Dialect.modern.name).outcome =
      .ok (.failure (.ofPlace 2 2 "Error: Line 2: Unexpected end of input")) := rfl
  obtain ⟨diagnostics, records, lines, -⟩ := lines_shown .usual source {} given "a.js"
  refine ⟨given, diagnostics, records, fun diagnostic listed => ⟨(lines diagnostic listed).2.1, ?_⟩⟩
  have isRecord : diagnostic.record ∈ result.records := records ▸ List.mem_map_of_mem listed
  rw [List.mem_singleton.1 isRecord]
  rfl

/-- So it is not true of every source that its records stand on lines that a report can show. -/
theorem not_all_lines_there :
    ¬ ∀ (source : List Char) (setting : Setting) (result : Result),
      ((Grammars.standard .usual).check source setting Dialect.modern.name).outcome = .ok result →
      ∀ record ∈ result.records, ∀ line, record.line = .int line →
        1 ≤ line ∧ line ≤ (Text.lines source).length := by
  intro allThere
  have given : ((Grammars.standard .usual).check ['\u2028', '('] {} Dialect.modern.name).outcome =
      .ok (.failure (.ofPlace 2 2 "Error: Line 2: Unexpected end of input")) := rfl
  have there := allThere _ _ _ given _ (List.mem_singleton.2 rfl) 2 rfl
  exact absurd there.2 (by decide)

end ScriptCheck
