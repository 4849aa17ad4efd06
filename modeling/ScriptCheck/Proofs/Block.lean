import ScriptCheck.Proofs.Diagnostic
import ScriptCheck.Report

/-!
# Blocks of diagnostics

What a report writes about a diagnostic is laid out line by line in `Diagnostic.blockLines`. It
fails only where a column is too large to be counted to, or a line has too many digits. As long as
columns can be counted to, `Report.ofLines_record` says what a report comes to: it hands out just
these blocks in order, each behind the warning that its line is missing, if it is, up to the first
diagnostic whose line is not written.
-/

namespace ScriptCheck

namespace Report

/-- The line that is shown for a number: that of the text, or an empty one behind its end. -/
def shownLine (lines : List (List Char)) (number : Int) : List Char :=
  (lines[(number - 1).toNat]?).getD []

/-- The line that any number means, if it means one: behind the end there is an empty one, and
numbers of zero and below count from the last line. -/
def lineFor (lines : List (List Char)) (number : Int) : Option (List Char) :=
  if (lines.length : Int) < number then some []
  else if 1 ≤ number then lines[(number - 1).toNat]?
  else lines.reverse[(-number).toNat]?

/-- The warning about a line that is not there. -/
def warnings (filepath : String) (lines : List (List Char)) (number : Int) : List Event :=
  if (lines.length : Int) < number then [.pastTheEnd filepath number lines.length] else []

/-- The place of a diagnostic as a block shows it. -/
def locator (filepath : String) (line column : Int) : List Char :=
  "    at (".toList ++ filepath.toList ++ ':' :: Text.signedDecimal line ++
    ':' :: Text.signedDecimal column ++ [')']

end Report

namespace Diagnostic

/-- The lines of a block below the source line. -/
def lowerLines (filepath : String) (diagnostic : Diagnostic) : List (List Char) :=
  [List.replicate (diagnostic.column - 1).toNat ' ' ++ ['^'],
    diagnostic.message.toList,
    Report.locator filepath diagnostic.line diagnostic.column,
    Report.rule]

/-- The five lines of a block. -/
def blockLines (filepath : String) (lines : List (List Char)) (diagnostic : Diagnostic) :
    List (List Char) :=
  Report.shownLine lines diagnostic.line :: diagnostic.lowerLines filepath

/-- The block of a diagnostic: its lines, each with a line feed behind it. -/
def block (filepath : String) (lines : List (List Char)) (diagnostic : Diagnostic) : List Char :=
  (diagnostic.blockLines filepath lines).flatMap fun line => line ++ ['\n']

/-- What a report hands out for a diagnostic. -/
def items (filepath : String) (lines : List (List Char)) (diagnostic : Diagnostic) :
    List Report.Item :=
  (Report.warnings filepath lines diagnostic.line).map .event ++
    [.block (diagnostic.block filepath lines)]

/-- Whether the block of a diagnostic can be written: a caret can be put under its column, and its
line does not have too many digits. -/
structure Fits (limits : Limits) (diagnostic : Diagnostic) : Prop where
  column : Report.fitsIndex (diagnostic.column - 1)
  line : limits.Writes diagnostic.line

/-- A caret can be put under a column below the greatest count. -/
theorem column_fits {diagnostic : Diagnostic} (small : diagnostic.column < 9223372036854775808) :
    Report.fitsIndex (diagnostic.column - 1) := by
  have positive := diagnostic.column_pos
  simp only [Report.fitsIndex, Bool.and_eq_true, decide_eq_true_eq]
  omega

/-- The diagnostics that are shown: those before the first whose line has too many digits. -/
def shown (limits : Limits) (diagnostics : List Diagnostic) : List Diagnostic :=
  diagnostics.takeWhile fun diagnostic => limits.Writes diagnostic.line

/-- The diagnostics that a report comes to: those that are shown, and the one that ends it. -/
def reached (limits : Limits) (diagnostics : List Diagnostic) : List Diagnostic :=
  diagnostics.take ((shown limits diagnostics).length + 1)

/-- What ends a report, if anything does. -/
def digitFault? (limits : Limits) (diagnostics : List Diagnostic) : Option Fault :=
  if ∀ diagnostic ∈ diagnostics, limits.Writes diagnostic.line then none
  else some limits.digitFault

section Shown

variable {limits : Limits} {diagnostics : List Diagnostic}

theorem shown_cons (diagnostic : Diagnostic) :
    shown limits (diagnostic :: diagnostics) =
      if limits.Writes diagnostic.line then diagnostic :: shown limits diagnostics else [] := by
  by_cases writes : limits.Writes diagnostic.line <;> simp [shown, writes]

theorem reached_cons (diagnostic : Diagnostic) :
    reached limits (diagnostic :: diagnostics) =
      diagnostic :: if limits.Writes diagnostic.line then reached limits diagnostics else [] := by
  rw [reached, shown_cons]
  split <;> rfl

theorem digitFault?_cons (diagnostic : Diagnostic) :
    digitFault? limits (diagnostic :: diagnostics) =
      if limits.Writes diagnostic.line then digitFault? limits diagnostics
      else some limits.digitFault := by
  by_cases writes : limits.Writes diagnostic.line <;> simp [digitFault?, writes]

/-- Nothing ends a report on which all is shown. -/
theorem digitFault?_eq_none_iff :
    digitFault? limits diagnostics = none ↔
      ∀ diagnostic ∈ diagnostics, limits.Writes diagnostic.line := by
  unfold digitFault?
  split
  next writes => simpa using writes
  next unwritten => simpa using unwritten

theorem mem_of_mem_shown {diagnostic : Diagnostic}
    (isShown : diagnostic ∈ shown limits diagnostics) : diagnostic ∈ diagnostics :=
  (List.takeWhile_prefix _).subset isShown

/-- Either all is shown, or there is a first diagnostic whose line has too many digits. -/
theorem shown_cases (limits : Limits) (diagnostics : List Diagnostic) :
    ((∀ diagnostic ∈ diagnostics, limits.Writes diagnostic.line) ∧
      shown limits diagnostics = diagnostics ∧ reached limits diagnostics = diagnostics ∧
      digitFault? limits diagnostics = none) ∨
    ∃ diagnostic later, diagnostics = shown limits diagnostics ++ diagnostic :: later ∧
      ¬ limits.Writes diagnostic.line ∧
      reached limits diagnostics = shown limits diagnostics ++ [diagnostic] ∧
      digitFault? limits diagnostics = some limits.digitFault := by
  induction diagnostics with
  | nil => exact .inl ⟨fun _ listed => absurd listed List.not_mem_nil, rfl, rfl, rfl⟩
  | cons first others inductionHypothesis =>
      simp only [shown_cons, reached_cons, digitFault?_cons]
      by_cases writes : limits.Writes first.line
      · simp only [writes, ↓reduceIte]
        obtain ⟨all, isShown, isReached, faultless⟩ | ⟨diagnostic, later, cut, unwritten, isReached,
          faulty⟩ := inductionHypothesis
        · exact .inl ⟨List.forall_mem_cons.2 ⟨writes, all⟩, congrArg _ isShown,
            congrArg _ isReached, faultless⟩
        · exact .inr ⟨diagnostic, later, congrArg _ cut, unwritten, congrArg _ isReached, faulty⟩
      · simp only [writes, ↓reduceIte]
        exact .inr ⟨first, others, rfl, writes, rfl, trivial⟩

theorem shown_of_writes (writes : ∀ diagnostic ∈ diagnostics, limits.Writes diagnostic.line) :
    shown limits diagnostics = diagnostics := by
  obtain ⟨-, same, -⟩ | ⟨diagnostic, later, cut, unwritten, -⟩ := shown_cases limits diagnostics
  · exact same
  · exact absurd (writes diagnostic (cut ▸ by simp)) unwritten

end Shown

end Diagnostic

namespace Report

variable {limits : Limits} {filepath : String} {lines : List (List Char)}

/-- An index is looked up from the end that it counts from. -/
theorem fromEitherEnd_eq (lines : List (List Char)) {number : Int}
    (within : number ≤ lines.length) :
    fromEitherEnd lines (number - 1) =
      match lineFor lines number with
      | some line => .ok line
      | none => .error (if fitsIndex (number - 1) then .indexOutOfRange else .indexTooLarge) := by
  unfold fromEitherEnd lineFor
  rw [if_neg (Int.not_lt.2 within)]
  by_cases positive : 1 ≤ number
  · have forward : ¬ number - 1 < 0 := by omega
    simp only [forward, ↓reduceIte, positive]
    cases lines[(number - 1).toNat]? <;> rfl
  · have backward : number - 1 < 0 := by omega
    simp only [backward, ↓reduceIte, positive]
    by_cases before : number - 1 + lines.length < 0
    · have missing : lines.reverse[(-number).toNat]? = none := by
        refine List.getElem?_eq_none ?_
        rw [List.length_reverse]
        omega
      rw [if_pos before, missing]
    · have mirrored : lines.reverse[(-number).toNat]? =
          lines[(number - 1 + lines.length).toNat]? := by
        rw [List.getElem?_reverse (by omega)]
        congr 1
        omega
      rw [if_neg before, mirrored]
      cases lines[(number - 1 + lines.length).toNat]? <;> rfl

/-- A line number has its line to show, and a warning if it is past the end. Numbers before the
first line have none. -/
theorem sourceLine_ofPlace (line column : Int) (message : String) :
    sourceLine filepath lines (.ofPlace line column message) =
      (warnings filepath lines line,
        match lineFor lines line with
        | some shown => .ok shown
        | none => .error (if fitsIndex (line - 1) then .indexOutOfRange else .indexTooLarge)) := by
  unfold sourceLine
  by_cases pastEnd : (lines.length : Int) < line
  · simp [Record.ofPlace, isPastEnd, Value.wholeNumber, warnings, lineFor, pastEnd]
  · simp [Record.ofPlace, isPastEnd, Value.integer?, warnings, pastEnd,
      fromEitherEnd_eq lines (Int.not_lt.1 pastEnd)]

/-- A positive number means the line that is shown for it. -/
theorem lineFor_of_pos {number : Int} (positive : 1 ≤ number) :
    lineFor lines number = some (shownLine lines number) := by
  unfold lineFor shownLine
  by_cases pastEnd : (lines.length : Int) < number
  · have missing : lines[(number - 1).toNat]? = none := List.getElem?_eq_none (by omega)
    rw [if_pos pastEnd, missing]
    rfl
  · have isThere : (number - 1).toNat < lines.length := by omega
    rw [if_neg pastEnd, if_pos positive, List.getElem?_eq_getElem isThere]
    rfl

/-- A positive line number has a line to show, and a warning if it is past the end. -/
theorem sourceLine_record (diagnostic : Diagnostic) :
    sourceLine filepath lines diagnostic.record =
      (warnings filepath lines diagnostic.line, .ok (shownLine lines diagnostic.line)) := by
  rw [Diagnostic.record, sourceLine_ofPlace, lineFor_of_pos diagnostic.line_pos]

/-- A column under which a caret can be put is written on every machine. -/
theorem writes_of_fitsIndex {column : Int} (fits : fitsIndex (column - 1)) :
    limits.Writes column := by
  simp only [fitsIndex, Bool.and_eq_true, decide_eq_true_eq] at fits
  exact Limits.writes_of_small (by omega)

/-- The lower part of a block can be shown where a caret can, if the line is written. -/
theorem remainder_ofPlace {column : Int} (fits : fitsIndex (column - 1)) (line : Int)
    (message : String) :
    remainder limits filepath (.ofPlace line column message) =
      if limits.Writes line then
        .ok ([List.replicate (column - 1).toNat ' ' ++ ['^'], message.toList,
          locator filepath line column, rule].flatMap fun line => line ++ ['\n'])
      else .error limits.digitFault := by
  have columnWritten : limits.decimal column = _ :=
    Limits.decimal_of_writes (writes_of_fitsIndex fits)
  have caret : "^\n".toList = ['^', '\n'] := by decide
  have opening : "\n    at (".toList = '\n' :: "    at (".toList := by decide
  have closing : ")\n".toList = [')', '\n'] := rfl
  simp only [remainder, Record.ofPlace, indentation, messageText, Value.decimal, Value.wholeNumber,
    bind, Except.bind, fits, columnWritten, caret, opening, closing, ↓reduceIte]
  by_cases writes : limits.Writes line
  · rw [Limits.decimal_of_writes writes, if_pos writes]
    unfold locator
    generalize "    at (".toList = mark
    generalize rule = dashes
    simp only [pure, Except.pure, List.flatMap_cons, List.flatMap_nil, List.append_assoc,
      List.cons_append, List.nil_append, List.append_nil]
  · rw [Limits.decimal_of_not_writes writes, if_neg writes]

/-- A report on a diagnostic shows its block, with a warning if its line is missing, unless the line
has too many digits. -/
theorem block_record {diagnostic : Diagnostic} (fits : fitsIndex (diagnostic.column - 1)) :
    block limits filepath lines diagnostic.record =
      (warnings filepath lines diagnostic.line,
        if limits.Writes diagnostic.line then .ok (diagnostic.block filepath lines)
        else .error limits.digitFault) := by
  unfold block
  rw [sourceLine_record, Diagnostic.record, remainder_ofPlace fits]
  by_cases writes : limits.Writes diagnostic.line
  · simp [writes, Except.map, Diagnostic.block, Diagnostic.blockLines, Diagnostic.lowerLines]
  · simp [writes, Except.map]

/-- A report on diagnostics that fit hands out their blocks in order, each behind its warning. -/
theorem ofLines_of_fits (filepath : String) (lines : List (List Char))
    {diagnostics : List Diagnostic} (fit : ∀ diagnostic ∈ diagnostics, diagnostic.Fits limits) :
    ofLines limits filepath lines (diagnostics.map Diagnostic.record) =
      ⟨diagnostics.flatMap (Diagnostic.items filepath lines), none⟩ := by
  induction diagnostics with
  | nil => rfl
  | cons diagnostic diagnostics inductionHypothesis =>
      have firstFits := fit diagnostic List.mem_cons_self
      have othersFit := inductionHypothesis fun other later =>
        fit other (List.mem_cons_of_mem _ later)
      simp [ofLines, block_record firstFits.column, firstFits.line, othersFit, Diagnostic.items]

section Parts

variable (logged : List Event)

theorem blocks_shown (text : List Char) (rest : Report) :
    (Report.mk (logged.map .event ++ .block text :: rest.items) rest.fault).blocks =
      text :: rest.blocks := by
  induction logged with
  | nil => rfl
  | cons event logged inductionHypothesis => exact inductionHypothesis

theorem events_shown (text : List Char) (rest : Report) :
    (Report.mk (logged.map .event ++ .block text :: rest.items) rest.fault).events =
      logged ++ rest.events := by
  induction logged with
  | nil => rfl
  | cons event logged inductionHypothesis => exact congrArg (event :: ·) inductionHypothesis

theorem blocks_failing (fault : Option Fault) :
    (Report.mk (logged.map .event) fault).blocks = [] := by
  induction logged with
  | nil => rfl
  | cons event logged inductionHypothesis => exact inductionHypothesis

theorem events_failing (fault : Option Fault) :
    (Report.mk (logged.map .event) fault).events = logged := by
  induction logged with
  | nil => rfl
  | cons event logged inductionHypothesis => exact congrArg (event :: ·) inductionHypothesis

end Parts

section AnyRecords

variable {record : Record}

/-- A record is shown as a text. -/
def Shows (limits : Limits) (filepath : String) (lines : List (List Char)) (record : Record)
    (text : List Char) : Prop := (block limits filepath lines record).2 = .ok text

/-- A record that is shown gives its block, and what was logged for it. -/
theorem ofLines_cons {text : List Char} (shown : Shows limits filepath lines record text)
    (later : List Record) :
    (ofLines limits filepath lines (record :: later)).blocks =
      text :: (ofLines limits filepath lines later).blocks ∧
    (ofLines limits filepath lines (record :: later)).events =
      (block limits filepath lines record).1 ++ (ofLines limits filepath lines later).events ∧
    (ofLines limits filepath lines (record :: later)).fault =
      (ofLines limits filepath lines later).fault := by
  obtain ⟨logged, same⟩ : ∃ logged, block limits filepath lines record = (logged, .ok text) :=
    ⟨_, Prod.ext rfl shown⟩
  simp only [ofLines, same, blocks_shown, events_shown, and_self]

/-- A record that cannot be shown ends a report with nothing of its own but what was logged. -/
theorem ofLines_failing {fault : Fault}
    (failing : (block limits filepath lines record).2 = .error fault) (later : List Record) :
    (ofLines limits filepath lines (record :: later)).blocks = [] ∧
    (ofLines limits filepath lines (record :: later)).events =
      (block limits filepath lines record).1 ∧
    (ofLines limits filepath lines (record :: later)).fault = some fault := by
  obtain ⟨logged, same⟩ : ∃ logged, block limits filepath lines record = (logged, .error fault) :=
    ⟨_, Prod.ext rfl failing⟩
  simp only [ofLines, same, blocks_failing, events_failing, and_self]

end AnyRecords

/-- A report on diagnostics has one block for each of them. -/
theorem blocks_items (diagnostics : List Diagnostic) :
    (Report.mk (diagnostics.flatMap (Diagnostic.items filepath lines)) none).blocks =
      diagnostics.map (Diagnostic.block filepath lines) := by
  induction diagnostics with
  | nil => rfl
  | cons diagnostic diagnostics inductionHypothesis =>
      rw [List.map_cons, ← inductionHypothesis, List.flatMap_cons, Diagnostic.items,
        List.append_assoc]
      exact blocks_shown _ _ ⟨_, none⟩

/-- The text of a report on diagnostics is made of their blocks. -/
theorem written_items (diagnostics : List Diagnostic) :
    (Report.mk (diagnostics.flatMap (Diagnostic.items filepath lines)) none).written =
      diagnostics.flatMap (Diagnostic.block filepath lines) := by
  rw [written, blocks_items, List.flatMap_def]

/-- A report on diagnostics with columns that can be counted to writes the blocks of those that are
shown, and logs the warnings of those that it comes to. -/
theorem ofLines_record (limits : Limits) (filepath : String) (lines : List (List Char))
    {diagnostics : List Diagnostic}
    (small : ∀ diagnostic ∈ diagnostics, diagnostic.column < 9223372036854775808) :
    let report := ofLines limits filepath lines (diagnostics.map Diagnostic.record)
    report.blocks = (Diagnostic.shown limits diagnostics).map (Diagnostic.block filepath lines) ∧
      report.events = ((Diagnostic.reached limits diagnostics).flatMap fun diagnostic =>
        warnings filepath lines diagnostic.line) ∧
      report.fault = Diagnostic.digitFault? limits diagnostics := by
  induction diagnostics with
  | nil => exact ⟨rfl, rfl, rfl⟩
  | cons diagnostic diagnostics inductionHypothesis =>
      obtain ⟨blocks_eq, events_eq, fault_eq⟩ := inductionHypothesis fun other later =>
        small other (List.mem_cons_of_mem _ later)
      have first : block limits filepath lines diagnostic.record = _ :=
        block_record (Diagnostic.column_fits (small diagnostic List.mem_cons_self))
      simp only [List.map_cons, Diagnostic.shown_cons, Diagnostic.reached_cons,
        Diagnostic.digitFault?_cons]
      by_cases writes : limits.Writes diagnostic.line
      · rw [if_pos writes] at first
        obtain ⟨blocks_cons, events_cons, fault_cons⟩ :=
          ofLines_cons (congrArg Prod.snd first) (diagnostics.map Diagnostic.record)
        rw [blocks_cons, events_cons, fault_cons, blocks_eq, events_eq, fault_eq, first]
        simp [writes]
      · rw [if_neg writes] at first
        obtain ⟨blocks_cons, events_cons, fault_cons⟩ :=
          ofLines_failing (congrArg Prod.snd first) (diagnostics.map Diagnostic.record)
        rw [blocks_cons, events_cons, fault_cons, first]
        simp [writes]

end Report

end ScriptCheck
