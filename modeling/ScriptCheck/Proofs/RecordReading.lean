import Mathlib.Data.List.Basic
import ScriptCheck.Proofs.Limits
import ScriptCheck.Proofs.Text.QuotedReading
import ScriptCheck.Record.Basic

/-!
# Displayed records are read back

The text that shows a record with integers for its places names them in decimal digits and quotes
the message behind them. It is read from left to right: digits end at the comma, and the message
ends at its mark. So two such records are shown alike exactly if they are equal, where a truth value
counts as the number that it is shown as: `Record.display_faithful`. Only integers of too many
digits keep a record from being shown.
-/

namespace ScriptCheck

namespace Value

variable {value other : Value} {number otherNumber : Int}

/-- An integer is printed as the number that it is. -/
theorem wholeNumber_of_integer? (isNumber : value.integer? = some number) :
    value.wholeNumber = .ok number := by
  cases value with
  | bool truth | int found =>
      cases isNumber
      rfl
  | _ => cases isNumber

/-- Integers are equal when they are one number. -/
theorem equal_of_integer? (isNumber : value.integer? = some number)
    (isOther : other.integer? = some otherNumber) :
    value.equal other = true ↔ number = otherNumber := by
  have truths : ∀ left right : Bool, (left == right) = true ↔ ofTruth left = ofTruth right := by
    decide
  cases value with
  | bool truth | int found =>
      cases isNumber
      cases other with
      | bool otherTruth | int otherFound =>
          cases isOther
          simp [equal, truths]
      | _ => cases isOther
  | _ => cases isNumber

end Value

namespace Record

/-- A record whose line and column are integers, truth values included, and whose message is a
text. -/
structure Holds (record : Record) (line column : Int) (message : String) : Prop where
  line_eq : record.line.integer? = some line
  column_eq : record.column.integer? = some column
  message_eq : record.message = .text message

/-- Two integers and a quoted text, as the text of a record shows them. -/
def displayed (printable : Char → Bool) (line column : Int) (message : String) : List Char :=
  "ParseErrorRecord(".toList ++ Text.signedDecimal line ++ ", ".toList ++
    Text.signedDecimal column ++ ", ".toList ++ Text.Quoted.write printable message.toList ++ [')']

/-- Read an integer behind an opening. -/
def readNumber (opening : String) (text : List Char) : Option (Int × List Char) := do
  Text.readInteger (← text.dropPrefix? opening.toList)

/-- Read the text that shows a record. -/
def read (text : List Char) : Option Record := do
  let (line, text) ← readNumber "ParseErrorRecord(" text
  let (column, text) ← readNumber ", " text
  let (message, text) ← Text.Quoted.read (← text.dropPrefix? ", ".toList)
  if text = [')'] then return ofPlace line column (String.ofList message) else none

theorem dropPrefix?_append (opening rest : List Char) :
    (opening ++ rest).dropPrefix? opening = some rest :=
  List.dropPrefix?_append_of_beq rest (beq_self_eq_true opening)

/-- An integer in front of a comma is read back. -/
theorem readNumber_append (opening : String) (number : Int) (rest : List Char) :
    readNumber opening (opening.toList ++ (Text.signedDecimal number ++ (", ".toList ++ rest))) =
      some (number, ", ".toList ++ rest) := by
  have comma : ", ".toList ++ rest = ',' :: ' ' :: rest := rfl
  rw [readNumber, dropPrefix?_append, comma]
  exact Text.readInteger_signedDecimal number (by decide) _

/-- A record is read when its parts are, each behind the one before. -/
theorem read_of_parts {text fromLine fromColumn fromMessage message : List Char} {line column : Int}
    (lineRead : readNumber "ParseErrorRecord(" text = some (line, fromLine))
    (columnRead : readNumber ", " fromLine = some (column, fromColumn))
    (commaRead : fromColumn.dropPrefix? ", ".toList = some fromMessage)
    (messageRead : Text.Quoted.read fromMessage = some (message, [')'])) :
    read text = some (ofPlace line column (String.ofList message)) := by
  simp only [read, lineRead, columnRead, commaRead, messageRead, Option.bind_eq_bind,
    Option.bind_some, ↓reduceIte, pure]

/-- What shows two integers and a text is read back. -/
theorem read_displayed (printable : Char → Bool) (line column : Int) (message : String) :
    read (displayed printable line column message) = some (ofPlace line column message) := by
  unfold displayed
  simp only [List.append_assoc]
  rw [read_of_parts (readNumber_append _ line _) (readNumber_append _ column _)
    (dropPrefix?_append _ _) (Text.Quoted.read_write printable message.toList [')']),
    String.ofList_toList]

section

variable {limits : Limits} {record other : Record} {line column otherLine otherColumn : Int}
  {message otherMessage : String}

/-- A record of integers and a text is shown unless one of the integers has too many digits. -/
theorem Holds.displayBy_eq (holds : record.Holds line column message) (printable : Char → Bool) :
    record.displayBy limits printable =
      if limits.Writes line ∧ limits.Writes column then
        .ok (displayed printable line column message)
      else .error limits.digitFault := by
  rw [displayBy, Value.decimal, Value.wholeNumber_of_integer? holds.line_eq, Value.decimal,
    Value.wholeNumber_of_integer? holds.column_eq, holds.message_eq, Value.quotedBy_text]
  simp only [bind, Except.bind]
  by_cases lineWrites : limits.Writes line
  · rw [Limits.decimal_of_writes lineWrites]
    by_cases columnWrites : limits.Writes column
    · rw [Limits.decimal_of_writes columnWrites, if_pos ⟨lineWrites, columnWrites⟩]
      rfl
    · rw [Limits.decimal_of_not_writes columnWrites, if_neg fun both => columnWrites both.2]
  · rw [Limits.decimal_of_not_writes lineWrites, if_neg fun both => lineWrites both.1]

/-- Records are equal when they hold the same integers and the same text. -/
theorem Holds.equal_iff (holds : record.Holds line column message)
    (otherHolds : other.Holds otherLine otherColumn otherMessage) :
    record.equal other = true ↔
      line = otherLine ∧ column = otherColumn ∧ message = otherMessage := by
  have texts : (Value.text message).equal (.text otherMessage) = true ↔ message = otherMessage := by
    simp [Value.equal]
  rw [equal, Bool.and_eq_true, Bool.and_eq_true, holds.message_eq, otherHolds.message_eq,
    Value.equal_of_integer? holds.line_eq otherHolds.line_eq,
    Value.equal_of_integer? holds.column_eq otherHolds.column_eq, texts, and_assoc]

/-- By one table, no two places and texts are shown alike. -/
theorem displayed_inj {printable : Char → Bool} :
    displayed printable line column message =
        displayed printable otherLine otherColumn otherMessage ↔
      line = otherLine ∧ column = otherColumn ∧ message = otherMessage := by
  constructor
  · intro same
    have read := read_displayed printable line column message
    rw [same, read_displayed, Option.some.injEq] at read
    simp only [ofPlace, mk.injEq, Value.int.injEq, Value.text.injEq] at read
    exact ⟨read.1.symm, read.2.1.symm, read.2.2.symm⟩
  · rintro ⟨rfl, rfl, rfl⟩
    rfl

/-- A record of integers and a text that is shown is shown like another one exactly if they are
equal, whichever characters are printable. -/
theorem Holds.displayBy_eq_iff (holds : record.Holds line column message)
    (otherHolds : other.Holds otherLine otherColumn otherMessage)
    (writes : limits.Writes line ∧ limits.Writes column) (printable : Char → Bool) :
    record.displayBy limits printable = other.displayBy limits printable ↔
      record.equal other = true := by
  rw [holds.displayBy_eq, otherHolds.displayBy_eq, if_pos writes, holds.equal_iff otherHolds,
    ← displayed_inj]
  by_cases otherWrites : limits.Writes otherLine ∧ limits.Writes otherColumn
  · rw [if_pos otherWrites, Except.ok.injEq]
  · rw [if_neg otherWrites]
    refine iff_of_false (fun same => nomatch same) fun same => otherWrites ?_
    obtain ⟨rfl, rfl, -⟩ := displayed_inj.1 same
    exact writes

/-- Two records with integers for their places and texts for their messages are shown alike exactly
if they are equal, unless there is an integer of too many digits. Whichever characters a table calls
printable, a record is shown as its line, its column and its quoted message, a reader without the
table finds all three in that, and no record that is not equal to it is shown like it. With an
integer of too many digits a record is not shown at all. -/
theorem display_faithful (limits : Limits) (holds : record.Holds line column message)
    (otherHolds : other.Holds otherLine otherColumn otherMessage) :
    (limits.Writes line ∧ limits.Writes column →
      (record.display limits = other.display limits ↔ record.equal other = true)) ∧
    ∀ printable : Char → Bool,
      let text := "ParseErrorRecord(".toList ++ Text.signedDecimal line ++ ", ".toList ++
        Text.signedDecimal column ++ ", ".toList ++
        Text.Quoted.write printable message.toList ++ [')']
      (record.displayBy limits printable =
        if limits.Writes line ∧ limits.Writes column then .ok text
        else .error limits.digitFault) ∧
      read text = some (ofPlace line column message) ∧
      (limits.Writes line ∧ limits.Writes column →
        (record.displayBy limits printable = other.displayBy limits printable ↔
          record.equal other = true)) :=
  ⟨fun writes => holds.displayBy_eq_iff otherHolds writes Text.isPrintable, fun printable =>
    ⟨holds.displayBy_eq printable, read_displayed printable line column message,
      fun writes => holds.displayBy_eq_iff otherHolds writes printable⟩⟩

end

/-- A line feed and a backslash in front of an `n` are told apart. A truth value is shown as the
number that it counts as. -/
theorem line_feed_displayed :
    let record : Record := ⟨.bool true, .int (-5), .text "it's\n\u2028"⟩
    let other : Record := .ofPlace 1 (-5) "it's\\n\u2028"
    record.Holds 1 (-5) "it's\n\u2028" ∧ other.Holds 1 (-5) "it's\\n\u2028" ∧
    record.display .usual = .ok "ParseErrorRecord(1, -5, \"it's\\n\\u2028\")".toList ∧
    record.display .usual ≠ other.display .usual := by
  intro record other
  have holds : record.Holds 1 (-5) "it's\n\u2028" := ⟨rfl, rfl, rfl⟩
  have otherHolds : other.Holds 1 (-5) "it's\\n\u2028" := ⟨rfl, rfl, rfl⟩
  have writes : Limits.usual.Writes 1 ∧ Limits.usual.Writes (-5) :=
    ⟨Limits.writes_of_small (by decide), Limits.writes_of_small (by decide)⟩
  obtain ⟨alike, shown⟩ := display_faithful .usual holds otherHolds
  obtain ⟨display, -⟩ := shown Text.isPrintable
  rw [if_pos writes] at display
  have differ : record.equal other = false := by decide +kernel
  refine ⟨holds, otherHolds, display.trans (congrArg Except.ok (by decide +kernel)), ?_⟩
  rw [Ne, alike writes, differ]
  exact Bool.false_ne_true

end Record

/-- Two texts in place of a coordinate are refused with different words. -/
theorem RecordProblem.text_eq_of_message_eq {coordinate : Coordinate} {text other : String}
    (same : (notInteger coordinate (Text.Quoted.quote text)).message =
      (notInteger coordinate (Text.Quoted.quote other)).message) : text = other := by
  have quoted : Text.Quoted.quote text = Text.Quoted.quote other :=
    (String.append_right_inj _).1 ((String.append_left_inj _).1 same)
  exact String.toList_injective
    (Text.Quoted.write_injective Text.isPrintable (String.ofList_injective quoted))

end ScriptCheck
