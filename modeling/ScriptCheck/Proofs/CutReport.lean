import Mathlib.Data.List.Forall2
import ScriptCheck.Proofs.Block
import ScriptCheck.Proofs.Text.Placement

/-!
# Reports that are cut short

Records made by hand may hold anything, so a report may come to one that cannot be shown. What it
has written by then are the blocks of the records before, whole and in order. For records of two
numbers and a text it can be said which record that is: the first one with a line number so far
below zero that it lies before the first line. `whole_blocks` is about both.
-/

namespace ScriptCheck

/-- A record made by hand of two numbers and a text. The numbers may be zero or below. -/
structure Entry where
  line : Int
  column : Int
  message : String
  deriving Repr

namespace Entry

/-- An entry as a record. -/
def record (entry : Entry) : Record := .ofPlace entry.line entry.column entry.message

/-- An entry whose numbers can be counted to, from either side of zero. -/
structure IsCountable (entry : Entry) : Prop where
  line : entry.line.natAbs < 9223372036854775808
  column : entry.column.natAbs < 9223372036854775808

/-- The five lines of the block of an entry. A column of one or below has no spaces before its
caret. -/
def blockLines (filepath : String) (lines : List (List Char)) (entry : Entry) :
    List (List Char) :=
  [(Report.lineFor lines entry.line).getD [],
    List.replicate (entry.column - 1).toNat ' ' ++ ['^'],
    entry.message.toList,
    Report.locator filepath entry.line entry.column,
    Report.rule]

/-- The block of an entry: its lines, each with a line feed behind it. -/
def block (filepath : String) (lines : List (List Char)) (entry : Entry) : List Char :=
  (entry.blockLines filepath lines).flatMap fun line => line ++ ['\n']

/-- What a report hands out for an entry. -/
def items (filepath : String) (lines : List (List Char)) (entry : Entry) : List Report.Item :=
  (Report.warnings filepath lines entry.line).map .event ++ [.block (entry.block filepath lines)]

/-- The numbers of a countable entry fit when one is taken off them. -/
theorem IsCountable.fits {entry : Entry} (countable : entry.IsCountable) :
    Report.fitsIndex (entry.line - 1) ∧ Report.fitsIndex (entry.column - 1) := by
  have line := countable.line
  have column := countable.column
  simp only [Report.fitsIndex, Bool.and_eq_true, decide_eq_true_eq]
  omega

/-- The line of a countable entry is written on every machine. -/
theorem IsCountable.line_writes {limits : Limits} {entry : Entry} (countable : entry.IsCountable) :
    limits.Writes entry.line :=
  Limits.writes_of_small (Nat.le_trans (Nat.le_of_lt countable.line) (by decide))

end Entry

namespace Report

variable {limits : Limits} {filepath : String} {lines : List (List Char)}

section AnyRecords

/-- Either all records can be shown, or one of them is the first that cannot. -/
theorem shown_or_failing (limits : Limits) (filepath : String) (lines : List (List Char))
    (records : List Record) :
    (∃ texts, List.Forall₂ (Shows limits filepath lines) records texts) ∨
    ∃ earlier record later texts fault, records = earlier ++ record :: later ∧
      List.Forall₂ (Shows limits filepath lines) earlier texts ∧
      (block limits filepath lines record).2 = .error fault := by
  induction records with
  | nil => exact .inl ⟨[], .nil⟩
  | cons first records inductionHypothesis =>
      cases firstShown : (block limits filepath lines first).2 with
      | error fault => exact .inr ⟨[], first, records, [], fault, rfl, .nil, firstShown⟩
      | ok text =>
          obtain ⟨texts, shown⟩ | ⟨earlier, record, later, texts, fault, rfl, shown, failing⟩ :=
            inductionHypothesis
          · exact .inl ⟨text :: texts, .cons firstShown shown⟩
          · exact .inr ⟨first :: earlier, record, later, text :: texts, fault, rfl,
              .cons firstShown shown, failing⟩

/-- Records that are shown come first in a report, and then it goes on with the others. -/
theorem ofLines_append {records : List Record} {texts : List (List Char)}
    (shown : List.Forall₂ (Shows limits filepath lines) records texts) (later : List Record) :
    (ofLines limits filepath lines (records ++ later)).blocks =
      texts ++ (ofLines limits filepath lines later).blocks ∧
    (ofLines limits filepath lines (records ++ later)).events =
      (records.flatMap fun record => (block limits filepath lines record).1) ++
        (ofLines limits filepath lines later).events ∧
    (ofLines limits filepath lines (records ++ later)).fault =
      (ofLines limits filepath lines later).fault := by
  induction shown with
  | nil => exact ⟨rfl, rfl, rfl⟩
  | @cons record text records texts isShown _ inductionHypothesis =>
      obtain ⟨blocks, events, fault⟩ := inductionHypothesis
      obtain ⟨blocks_cons, events_cons, fault_cons⟩ := ofLines_cons isShown (records ++ later)
      refine ⟨?_, ?_, fault_cons.trans fault⟩
      · rw [List.cons_append, blocks_cons, blocks, List.cons_append]
      · rw [List.cons_append, events_cons, events, List.flatMap_cons, List.append_assoc]

end AnyRecords

section Entries

/-- A number means no line exactly if it lies before the first one. -/
theorem lineFor_eq_none {number : Int} (nonempty : 0 < lines.length) :
    lineFor lines number = none ↔ number ≤ -(lines.length : Int) := by
  unfold lineFor
  split
  next pastEnd =>
    simp only [reduceCtorEq, false_iff]
    omega
  next within =>
    split
    next positive =>
      rw [List.getElem?_eq_none_iff]
      omega
    next =>
      rw [List.getElem?_eq_none_iff, List.length_reverse]
      omega

/-- An entry is shown unless its line lies before the first one. -/
theorem block_entry (limits : Limits) (filepath : String) {entry : Entry}
    (countable : entry.IsCountable) (nonempty : 0 < lines.length) :
    block limits filepath lines entry.record =
      (warnings filepath lines entry.line,
        if -(lines.length : Int) < entry.line then .ok (entry.block filepath lines)
        else .error .indexOutOfRange) := by
  obtain ⟨lineFits, columnFits⟩ := countable.fits
  unfold block
  rw [Entry.record, sourceLine_ofPlace, remainder_ofPlace columnFits, if_pos countable.line_writes]
  cases shown : lineFor lines entry.line with
  | none =>
      rw [if_neg (Int.not_lt.2 ((lineFor_eq_none nonempty).1 shown)), if_pos lineFits]
  | some line =>
      have isThere : -(lines.length : Int) < entry.line := by
        refine Int.not_le.1 fun before => ?_
        cases shown.symm.trans ((lineFor_eq_none nonempty).2 before)
      rw [if_pos isThere]
      simp [Except.map, Entry.block, Entry.blockLines, shown]

/-- A report on entries shows them up to the first whose line lies before the first one. -/
theorem ofLines_entries {entries : List Entry} (nonempty : 0 < lines.length)
    (countable : ∀ entry ∈ entries, entry.IsCountable) :
    ofLines limits filepath lines (entries.map Entry.record) =
      ⟨(entries.takeWhile fun entry => -(lines.length : Int) < entry.line).flatMap
          (Entry.items filepath lines),
        if ∃ entry ∈ entries, entry.line ≤ -(lines.length : Int) then some .indexOutOfRange
        else none⟩ := by
  induction entries with
  | nil => simp [ofLines]
  | cons entry entries inductionHypothesis =>
      have others := inductionHypothesis fun other later =>
        countable other (List.mem_cons_of_mem _ later)
      have first := block_entry limits filepath (countable entry List.mem_cons_self) nonempty
      by_cases isThere : -(lines.length : Int) < entry.line
      · have notBefore : ¬ entry.line ≤ -(lines.length : Int) := Int.not_le.2 isThere
        simp [ofLines, first, others, isThere, notBefore, Entry.items]
      · have noWarning : warnings filepath lines entry.line = [] := by
          rw [warnings, if_neg]
          omega
        simp [ofLines, first, isThere, noWarning, Int.not_lt.1 isThere]

end Entries

/-- A report that ends with a fault has written whole blocks only. Whatever the records hold, it has
shown all of them, or ends at the first that cannot be shown: then it has written the blocks of the
records before, and nothing else. If the records are entries with numbers that can be counted to,
this is the first of them whose line lies before the first one of the source, and its fault is that
of an index out of range. All entries before it have their blocks in order: past the end with an
empty line behind a warning, from the last line backwards with numbers of zero and below, and with
the caret at the margin where the column is not positive. -/
theorem whole_blocks (limits : Limits) (filepath : String) (source : List Char) :
    (∀ (records : List Record) (fault : Fault),
      (make limits filepath source records).fault = some fault →
      ∃ earlier record later texts, records = earlier ++ record :: later ∧
        (block limits filepath (Text.lines source) record).2 = .error fault ∧
        List.Forall₂
          (fun record text => (block limits filepath (Text.lines source) record).2 = .ok text)
          earlier texts ∧
        (make limits filepath source records).written = texts.flatten ∧
        (make limits filepath source records).events =
          (earlier ++ [record]).flatMap fun record =>
            (block limits filepath (Text.lines source) record).1) ∧
    (∀ records : List Record, (make limits filepath source records).fault = none →
      ∃ texts, List.Forall₂
          (fun record text => (block limits filepath (Text.lines source) record).2 = .ok text)
          records texts ∧
        (make limits filepath source records).written = texts.flatten) ∧
    ∀ entries : List Entry, (∀ entry ∈ entries, entry.IsCountable) →
      make limits filepath source (entries.map Entry.record) =
        ⟨(entries.takeWhile fun entry => -((Text.lines source).length : Int) < entry.line).flatMap
            (Entry.items filepath (Text.lines source)),
          if ∃ entry ∈ entries, entry.line ≤ -((Text.lines source).length : Int) then
            some .indexOutOfRange
          else none⟩ := by
  have complete {records : List Record} {texts : List (List Char)}
      (shown : List.Forall₂ (Shows limits filepath (Text.lines source)) records texts) :
      (make limits filepath source records).written = texts.flatten ∧
        (make limits filepath source records).fault = none := by
    have whole := ofLines_append shown []
    rw [List.append_nil] at whole
    exact ⟨congrArg List.flatten (whole.1.trans (List.append_nil _)), whole.2.2⟩
  refine ⟨fun records fault faulty => ?_, fun records faultless => ?_, fun entries countable =>
    ofLines_entries (Text.lines_length_pos source) countable⟩
  · obtain ⟨texts, shown⟩ | ⟨earlier, record, later, texts, found, rfl, shown, failing⟩ :=
      shown_or_failing limits filepath (Text.lines source) records
    · cases faulty.symm.trans (complete shown).2
    · obtain ⟨blocks, events, ended⟩ := ofLines_append shown (record :: later)
      obtain ⟨nothing, logged, same⟩ := ofLines_failing failing later
      cases faulty.symm.trans (ended.trans same)
      refine ⟨earlier, record, later, texts, rfl, failing, shown, ?_, ?_⟩
      · rw [make, written, blocks, nothing, List.append_nil]
      · rw [make, events, logged, List.flatMap_append, List.flatMap_singleton]
  · obtain ⟨texts, shown⟩ | ⟨earlier, record, later, texts, found, rfl, shown, failing⟩ :=
      shown_or_failing limits filepath (Text.lines source) records
    · exact ⟨texts, shown, (complete shown).1⟩
    · have ended := (ofLines_append shown (record :: later)).2.2
      cases faultless.symm.trans (ended.trans (ofLines_failing failing later).2.2)

/-- A column that is a text cannot be shown. In a source of one line the number zero means the last
line, and minus one means none. -/
theorem first_block_whole :
    let source := ['l', 'e', 't']
    let records : List Record := [.ofPlace 1 1 "first", ⟨.int 7, .text "1", .text "odd"⟩]
    let entries : List Entry := [⟨0, -3, "last"⟩, ⟨-1, 1, "none"⟩, ⟨1, 1, "first"⟩]
    let fault : Fault := .mismatch (.operands .minus "str" "int")
    (make .usual "a.js" source records).fault = some fault ∧
    (∃ earlier record later texts, records = earlier ++ record :: later ∧
      (block .usual "a.js" (Text.lines source) record).2 = .error fault ∧
      List.Forall₂
        (fun record text => (block .usual "a.js" (Text.lines source) record).2 = .ok text)
        earlier texts ∧
      (make .usual "a.js" source records).written = texts.flatten) ∧
    (∀ entry ∈ entries, entry.IsCountable) ∧
    make .usual "a.js" source (entries.map Entry.record) =
      ⟨[.block ("let\n^\nlast\n    at (a.js:0:-3)\n".toList ++ rule ++ ['\n'])],
        some .indexOutOfRange⟩ := by
  intro source records entries fault
  obtain ⟨cut, -, shown⟩ := whole_blocks .usual "a.js" source
  have faulty : (make .usual "a.js" source records).fault = some fault := rfl
  have countable : ∀ entry ∈ entries, entry.IsCountable := by
    simp only [entries, List.forall_mem_cons]
    exact ⟨⟨by decide, by decide⟩, ⟨by decide, by decide⟩, ⟨by decide, by decide⟩,
      fun _ listed => absurd listed List.not_mem_nil⟩
  obtain ⟨earlier, record, later, texts, split, failing, shows, written, -⟩ :=
    cut records fault faulty
  refine ⟨faulty, ⟨earlier, record, later, texts, split, failing, shows, written⟩, countable, ?_⟩
  rw [shown entries countable]
  rfl

end Report

end ScriptCheck
