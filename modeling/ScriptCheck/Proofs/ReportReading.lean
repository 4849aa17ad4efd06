import Mathlib.Data.List.Basic
import ScriptCheck.Proofs.Block
import ScriptCheck.Proofs.Text.DigitReading
import ScriptCheck.Proofs.Text.Placement

/-!
# Reports are read back

A report on diagnostics with messages of one line each consists of five lines a diagnostic, so its
blocks are found again by counting, whatever the lines look like. The place in a block names line
and column, and the message stands above it: two lists of diagnostics with one report are one list.
A report ends before a line of too many digits, and then it gives back the diagnostics before that.
-/

namespace ScriptCheck

/-- A diagnostic that takes five lines: its message is on one line, and a caret can be put under its
column. -/
structure Diagnostic.IsFiveLines (diagnostic : Diagnostic) : Prop where
  oneLine : '\n' ∉ diagnostic.message.toList
  countable : diagnostic.column < 9223372036854775808

namespace Report

variable {filepath : String} {lines : List (List Char)}

/-- A locator holds no line feed where the file path holds none. -/
theorem newline_not_mem_locator (onLine : '\n' ∉ filepath.toList) (line column : Int) :
    '\n' ∉ locator filepath line column := by
  have opening : '\n' ∉ "    at (".toList := by decide
  have noBreak (number : Int) : '\n' ∉ Text.signedDecimal number := fun mem =>
    absurd (Text.mem_signedDecimal mem) (by decide)
  unfold locator
  simp only [List.mem_append, List.mem_cons, List.not_mem_nil, not_or]
  exact ⟨⟨⟨⟨opening, onLine⟩, by decide, noBreak line⟩, by decide, noBreak column⟩, by decide,
    not_false⟩

/-- The locators of a file name their lines and columns: no digits run into the colon between. -/
theorem locator_inj {line column otherLine otherColumn : Int}
    (same : locator filepath line column = locator filepath otherLine otherColumn) :
    line = otherLine ∧ column = otherColumn := by
  have noColon (number : Int) : ':' ∉ Text.signedDecimal number := fun mem =>
    absurd (Text.mem_signedDecimal mem) (by decide)
  have noColonBehind : ':' ∉ Text.signedDecimal column ++ [')'] := by
    simp [noColon]
  unfold locator at same
  simp only [List.append_assoc, List.cons_append, List.append_cancel_left_eq, List.cons.injEq,
    true_and] at same
  obtain ⟨lines, -, columns⟩ :=
    (List.append_cons_inj_of_notMem (noColon line) noColonBehind).1 same
  exact ⟨Text.signedDecimal_injective lines,
    Text.signedDecimal_injective (List.append_cancel_right columns)⟩

/-- The line that is shown holds no line feed. -/
theorem newline_not_mem_shownLine (source : List Char) (number : Int) :
    '\n' ∉ shownLine (Text.lines source) number := by
  unfold shownLine
  cases found : (Text.lines source)[(number - 1).toNat]? with
  | none => exact List.not_mem_nil
  | some line => exact Text.newline_not_mem_of_mem_lines (List.mem_of_getElem? found)

/-- The line of the caret holds no line feed. -/
theorem newline_not_mem_caret (column : Int) :
    '\n' ∉ List.replicate (column - 1).toNat ' ' ++ ['^'] := by
  simp [List.mem_replicate]

theorem newline_not_mem_rule : '\n' ∉ rule := by decide

/-- No line of a block holds a line feed. -/
theorem newline_not_mem_blockLines (onLine : '\n' ∉ filepath.toList) (source : List Char)
    {diagnostic : Diagnostic} (fiveLines : diagnostic.IsFiveLines) :
    ∀ line ∈ diagnostic.blockLines filepath (Text.lines source), '\n' ∉ line := by
  simp only [Diagnostic.blockLines, Diagnostic.lowerLines, List.forall_mem_cons]
  exact ⟨newline_not_mem_shownLine source _, newline_not_mem_caret _, fiveLines.oneLine,
    newline_not_mem_locator onLine _ _, newline_not_mem_rule,
    fun _ listed => absurd listed List.not_mem_nil⟩

/-- The lines of a report are the lines of its blocks, and an empty one behind the last. -/
theorem lines_blocks (onLine : '\n' ∉ filepath.toList) (source : List Char)
    {diagnostics : List Diagnostic}
    (fiveLines : ∀ diagnostic ∈ diagnostics, diagnostic.IsFiveLines) :
    Text.lines (diagnostics.flatMap (Diagnostic.block filepath (Text.lines source))) =
      diagnostics.flatMap (Diagnostic.blockLines filepath (Text.lines source)) ++ [[]] := by
  have flat : diagnostics.flatMap (Diagnostic.block filepath (Text.lines source)) =
      (diagnostics.flatMap (Diagnostic.blockLines filepath (Text.lines source))).flatMap
        fun line => line ++ ['\n'] := by
    rw [List.flatMap_assoc]
    rfl
  rw [flat]
  refine Text.lines_flatMap fun line listed => ?_
  obtain ⟨diagnostic, isListed, isLine⟩ := List.mem_flatMap.1 listed
  exact newline_not_mem_blockLines onLine source (fiveLines diagnostic isListed) line isLine

theorem length_flatMap_blockLines (diagnostics : List Diagnostic) :
    (diagnostics.flatMap (Diagnostic.blockLines filepath lines)).length =
      5 * diagnostics.length := by
  induction diagnostics with
  | nil => rfl
  | cons diagnostic diagnostics inductionHypothesis =>
      rw [List.flatMap_cons, List.length_append, inductionHypothesis, List.length_cons,
        Nat.mul_succ, Nat.add_comm]
      rfl

/-- What a list has for one of its items stands behind what it has for the items before. -/
theorem take_drop_flatMap {α β : Type} (pieces : α → List β) {items : List α} {index : Nat}
    {item : α} (listed : items[index]? = some item) (behind : List β) :
    ((items.flatMap pieces ++ behind).drop ((items.take index).flatMap pieces).length).take
      (pieces item).length = pieces item := by
  obtain ⟨within, rfl⟩ := List.getElem?_eq_some_iff.1 listed
  have cut : items.flatMap pieces ++ behind = (items.take index).flatMap pieces ++
      (pieces items[index] ++ ((items.drop (index + 1)).flatMap pieces ++ behind)) := by
    rw [← List.append_assoc (pieces _), ← List.flatMap_cons, List.getElem_cons_drop,
      ← List.append_assoc, ← List.flatMap_append, List.take_append_drop]
  rw [cut, List.drop_left, List.take_left]

/-- The lines of a block stand behind five lines for each block before it. -/
theorem take_drop_blockLines {diagnostics : List Diagnostic} {index : Nat} {diagnostic : Diagnostic}
    (listed : diagnostics[index]? = some diagnostic) (behind : List (List Char)) :
    ((diagnostics.flatMap (Diagnostic.blockLines filepath lines) ++ behind).drop (5 * index)).take
      5 = diagnostic.blockLines filepath lines := by
  have before : ((diagnostics.take index).flatMap (Diagnostic.blockLines filepath lines)).length =
      5 * index := by
    obtain ⟨within, -⟩ := List.getElem?_eq_some_iff.1 listed
    rw [length_flatMap_blockLines, List.length_take_of_le (Nat.le_of_lt within)]
  rw [← before]
  exact take_drop_flatMap (Diagnostic.blockLines filepath lines) listed behind

/-- Blocks with the same lines are blocks of the same diagnostics. -/
theorem flatMap_blockLines_inj {diagnostics others : List Diagnostic}
    (same : diagnostics.flatMap (Diagnostic.blockLines filepath lines) =
      others.flatMap (Diagnostic.blockLines filepath lines)) : diagnostics = others := by
  induction diagnostics generalizing others with
  | nil =>
      cases others with
      | nil => rfl
      | cons other others => cases same
  | cons diagnostic diagnostics inductionHypothesis =>
      cases others with
      | nil => cases same
      | cons other others =>
          simp only [List.flatMap_cons, Diagnostic.blockLines, Diagnostic.lowerLines,
            List.cons_append, List.nil_append, List.cons.injEq] at same
          obtain ⟨-, -, messages, locators, -, rest⟩ := same
          obtain ⟨line, column⟩ := locator_inj locators
          rw [inductionHypothesis rest,
            Diagnostic.ext line column (String.toList_injective messages)]

/-- There is one warning for each diagnostic behind the end. -/
theorem flatMap_warnings (diagnostics : List Diagnostic) :
    (diagnostics.flatMap fun diagnostic => warnings filepath lines diagnostic.line) =
      (diagnostics.filter fun diagnostic => (lines.length : Int) < diagnostic.line).map
        fun diagnostic => .pastTheEnd filepath diagnostic.line lines.length := by
  induction diagnostics with
  | nil => rfl
  | cons diagnostic diagnostics inductionHypothesis =>
      rw [List.flatMap_cons, inductionHypothesis, warnings]
      by_cases pastEnd : (lines.length : Int) < diagnostic.line
      · simp [pastEnd]
      · simp [pastEnd]

/-- A report on diagnostics that take five lines each is complete, or ends at the first whose line
has too many digits, and gives back the diagnostics that are shown. Its lines are five for each of
them, in order, and an empty one behind the last: the source line, which is empty behind the end,
the caret, the message, the place and the rule. Every other list of such diagnostics has another
report. The warnings tell in order of the diagnostics behind the end, and of no others, as far as
the report comes. -/
theorem decodable (limits : Limits) (filepath : String) (source : List Char)
    (onLine : '\n' ∉ filepath.toList) (diagnostics : List Diagnostic)
    (fiveLines : ∀ diagnostic ∈ diagnostics, diagnostic.IsFiveLines) :
    let report := make limits filepath source (diagnostics.map Diagnostic.record)
    let shown := Diagnostic.shown limits diagnostics
    (shown = diagnostics ∧ report.fault = none ∨
      ∃ diagnostic later, diagnostics = shown ++ diagnostic :: later ∧
        ¬ limits.Writes diagnostic.line ∧ report.fault = some limits.digitFault) ∧
    (Text.lines report.written).length = 5 * shown.length + 1 ∧
    (Text.lines report.written)[5 * shown.length]? = some [] ∧
    (∀ (index : Nat) (diagnostic : Diagnostic), shown[index]? = some diagnostic →
      ((Text.lines report.written).drop (5 * index)).take 5 =
        [((Text.lines source)[(diagnostic.line - 1).toNat]?).getD [],
          List.replicate (diagnostic.column - 1).toNat ' ' ++ ['^'],
          diagnostic.message.toList,
          "    at (".toList ++ filepath.toList ++ ':' :: Text.signedDecimal diagnostic.line ++
            ':' :: Text.signedDecimal diagnostic.column ++ [')'],
          List.replicate 68 '-']) ∧
    (∀ others : List Diagnostic, (∀ other ∈ others, other.IsFiveLines) →
      let otherReport := make limits filepath source (others.map Diagnostic.record)
      otherReport.written = report.written →
        Diagnostic.shown limits others = shown ∧
        (otherReport.fault = none → report.fault = none → others = diagnostics)) ∧
    report.events =
      ((diagnostics.take (shown.length + 1)).filter fun diagnostic =>
        ((Text.lines source).length : Int) < diagnostic.line).map fun diagnostic =>
          .pastTheEnd filepath diagnostic.line (Text.lines source).length := by
  have reported {diagnostics : List Diagnostic}
      (fiveLines : ∀ diagnostic ∈ diagnostics, diagnostic.IsFiveLines) :=
    ofLines_record limits filepath (Text.lines source) fun diagnostic listed =>
      (fiveLines diagnostic listed).countable
  have found {diagnostics : List Diagnostic}
      (fiveLines : ∀ diagnostic ∈ diagnostics, diagnostic.IsFiveLines) :
      Text.lines (make limits filepath source (diagnostics.map Diagnostic.record)).written =
        (Diagnostic.shown limits diagnostics).flatMap
          (Diagnostic.blockLines filepath (Text.lines source)) ++ [[]] := by
    rw [make, written, (reported fiveLines).1, ← List.flatMap_def]
    exact lines_blocks onLine source fun diagnostic isShown =>
      fiveLines diagnostic (Diagnostic.mem_of_mem_shown isShown)
  obtain ⟨-, events_eq, fault_eq⟩ := reported fiveLines
  intro report shown
  have length : (shown.flatMap (Diagnostic.blockLines filepath (Text.lines source))).length =
      5 * shown.length := length_flatMap_blockLines shown
  refine ⟨?_, ?_, ?_, fun index diagnostic listed => ?_, fun others othersFit => ?_, ?_⟩
  · obtain ⟨-, whole, -, faultless⟩ | ⟨diagnostic, later, cut, unwritten, -, faulty⟩ :=
      Diagnostic.shown_cases limits diagnostics
    · exact .inl ⟨whole, fault_eq.trans faultless⟩
    · exact .inr ⟨diagnostic, later, cut, unwritten, fault_eq.trans faulty⟩
  · rw [found fiveLines, List.length_append, length, List.length_singleton]
  · rw [found fiveLines, ← length, List.getElem?_append_right (Nat.le_refl _), Nat.sub_self,
      List.getElem?_cons_zero]
  · rw [found fiveLines]
    exact take_drop_blockLines listed _
  · intro otherReport same
    have sameShown : Diagnostic.shown limits others = shown := by
      have lines_eq := congrArg Text.lines same
      rw [found othersFit, found fiveLines] at lines_eq
      exact flatMap_blockLines_inj (List.append_cancel_right lines_eq)
    refine ⟨sameShown, fun otherFault fault => ?_⟩
    have othersWrite :=
      Diagnostic.digitFault?_eq_none_iff.1 ((reported othersFit).2.2.symm.trans otherFault)
    have write := Diagnostic.digitFault?_eq_none_iff.1 (fault_eq.symm.trans fault)
    rw [← Diagnostic.shown_of_writes othersWrite, sameShown]
    exact Diagnostic.shown_of_writes write
  · exact events_eq.trans (flatMap_warnings _)

/-- A message may look like the place of another block: two such blocks take ten lines all the same,
and the second one has a warning. -/
theorem lookalike_decodable :
    let diagnostics : List Diagnostic :=
      [⟨1, 5, "odd", by decide, by decide⟩, ⟨7, 3, "    at (a.js:1:5)", by decide, by decide⟩]
    let report := make .usual "a.js" ['l', 'e', 't', ' '] (diagnostics.map Diagnostic.record)
    '\n' ∉ "a.js".toList ∧ (∀ diagnostic ∈ diagnostics, diagnostic.IsFiveLines) ∧
    report.fault = none ∧ (Text.lines report.written).length = 11 ∧
    report.events = [.pastTheEnd "a.js" 7 1] := by
  intro diagnostics report
  have onLine : '\n' ∉ "a.js".toList := by decide
  have fiveLines : ∀ diagnostic ∈ diagnostics, diagnostic.IsFiveLines :=
    List.forall_mem_cons.2 ⟨⟨by decide, by decide⟩, List.forall_mem_singleton.2
      ⟨by decide, by decide⟩⟩
  obtain ⟨-, length, -, -, -, events⟩ :=
    decodable .usual "a.js" ['l', 'e', 't', ' '] onLine diagnostics fiveLines
  exact ⟨onLine, fiveLines, rfl, length, events⟩

end Report

end ScriptCheck
