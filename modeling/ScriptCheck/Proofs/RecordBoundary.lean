import ScriptCheck.Proofs.Conversion

/-!
# Which error objects are records

Error objects come in four shapes and may hold anything. `Record.load` makes a record of those whose
line and column are positive integers and that tell what is wrong, and of no others; the first part
that is missing decides what is said about the rest. `Record.load_boundary` states this in both
directions, and that the shape makes no difference: an exception is loaded as the mapping of what it
carries is, so a problem gives one and the same record whether it was raised or tolerated.
-/

namespace ScriptCheck

/-- A value that may be a coordinate: a positive integer. A truth value is none. -/
def Value.IsCoordinate (value : Value) : Prop := ∃ number, value = .int number ∧ 1 ≤ number

/-- A value, or another one in place of null. -/
def Value.orIfNull (value other : Value) : Value :=
  match value with
  | .null => other
  | present => present

theorem Value.orIfNull_of_ne {value : Value} (present : value ≠ .null) (other : Value) :
    value.orIfNull other = value := by
  cases value with
  | null => exact absurd rfl present
  | _ => rfl

/-- What is said about a value that is no coordinate. It shows the value, so it cannot be said about
a value that is not written. -/
def Value.refusal (limits : Limits) (name : String) : Value → Except Fault String
  | .int number => ((Value.int number).shownText limits).map fun shown =>
      "Error record " ++ name ++ " should be positive (got " ++ shown ++ ")"
  | value => (value.quotedText limits).map fun quoted =>
      "Error record has no integer " ++ name ++ " (got " ++ quoted ++ ")"

/-- Whether something is refused with a text. If there is none, it fails for the same reason. -/
def IsRefused {α : Type} (refusal : Except Fault String) (outcome : Except Fault α) : Prop :=
  match refusal with
  | .ok text => ∃ problem, outcome = .error (.badRecord problem) ∧ problem.message = text
  | .error fault => outcome = .error fault

namespace ErrorObject

/-- An error object tells what is wrong if it is an exception, or has a message or a description.
Empty texts, zeros and the like are messages too. -/
def IsTelling (object : ErrorObject) : Prop :=
  (∃ raised, object = .exception raised) ∨ object.field "message" ≠ .null ∨
    object.field "description" ≠ .null

/-- What an error object tells: an exception its class and its text, even if it has a message of its
own; any other its message, and its description only without one. -/
def told : ErrorObject → Value
  | .exception raised => .text (raised.className ++ ": " ++ raised.text)
  | other => (other.field "message").orIfNull (other.field "description")

end ErrorObject

section Refusals

variable {limits : Limits} {value : Value} {name : String}

/-- Something can be said about a value exactly if it is written. -/
theorem Value.refusal_isOk_iff :
    (∃ text, value.refusal limits name = .ok text) ↔ value.IsWritten limits 0 := by
  have changed {before : Except Fault String} {change : String → String} :
      (∃ text, before.map change = .ok text) ↔ ∃ text, before = .ok text := by
    simp [map_eq_ok]
  cases value with
  | int number => exact changed.trans shownText_isOk_iff
  | _ => exact changed.trans quotedText_isOk_iff

theorem Value.mem_faults_of_refusal {fault : Fault}
    (fails : value.refusal limits name = .error fault) : fault ∈ limits.faults := by
  have changed {before : Except Fault String} {change : String → String}
      (fails : before.map change = .error fault) : before = .error fault := by
    cases before with
      | ok text => cases fails
      | error other =>
          cases fails
          rfl
  cases value with
  | int number => exact mem_faults_of_shownText (changed fails)
  | _ => exact mem_faults_of_quotedText (changed fails)

variable {α β : Type} {refusal : Except Fault String} {first : Except Fault α}
  {next : α → Except Fault β}

/-- A chain of steps is refused when its first step is. -/
theorem IsRefused.bind (refused : IsRefused refusal first) :
    IsRefused refusal (first >>= next) := by
  cases refusal with
  | ok text =>
      obtain ⟨problem, rfl, said⟩ := refused
      exact ⟨problem, rfl, said⟩
  | error fault =>
      obtain rfl : first = .error fault := refused
      rfl

/-- It is refused when a later step is. -/
theorem IsRefused.behind {given : α} (succeeds : first = .ok given)
    (refused : IsRefused refusal (next given)) : IsRefused refusal (first >>= next) := by
  subst succeeds
  exact refused

end Refusals

namespace Record

variable {limits : Limits}

/-- A value that is no coordinate is refused with its text. -/
theorem loadCoordinate_refusal {value : Value} (bad : ¬ value.IsCoordinate)
    (coordinate : Coordinate) :
    IsRefused (value.refusal limits coordinate.fieldName)
      (loadCoordinate limits coordinate value) := by
  have refused (shown : Except Fault String) (refuse : String → RecordProblem) :
      IsRefused (shown.map fun text => (refuse text).message)
        (do throw (Fault.badRecord (refuse (← shown))) : Except Fault Int) := by
    cases shown with
    | ok text => exact ⟨_, rfl, rfl⟩
    | error fault => rfl
  cases value with
  | int number =>
      have small : number < 1 := by
        by_contra large
        exact bad ⟨number, rfl, Int.not_lt.1 large⟩
      rw [loadCoordinate, if_pos small]
      exact refused _ (.notPositive coordinate)
  | _ => exact refused _ (.notInteger coordinate)

/-- A coordinate is loaded as the number that it is. -/
theorem loadCoordinate_isCoordinate {value : Value} (good : value.IsCoordinate)
    (coordinate : Coordinate) :
    ∃ number, value = .int number ∧ loadCoordinate limits coordinate value = .ok number := by
  obtain ⟨number, isNumber, positive⟩ := good
  exact ⟨number, isNumber, loadCoordinate_eq_ok.2 ⟨isNumber, positive⟩⟩

/-- The message of an error object is what it tells, if it tells anything. -/
theorem messageOf_cases (object : ErrorObject) :
    (object.IsTelling ∧ messageOf object = .ok object.told) ∨
    (¬ object.IsTelling ∧ messageOf object = .error (.badRecord .noMessage)) := by
  cases object with
  | exception raised => exact .inl ⟨.inl ⟨raised, rfl⟩, rfl⟩
  | mapping fields | object fields | plain value =>
      unfold messageOf ErrorObject.told ErrorObject.IsTelling
      dsimp only
      split
      next absent =>
        rw [absent]
        split
        next missing => exact .inr ⟨by simp [missing], rfl⟩
        next described => exact .inl ⟨.inr (.inr described), rfl⟩
      next present => exact .inl ⟨.inr (.inl present), by rw [Value.orIfNull_of_ne present]⟩

section Load

variable {object : ErrorObject}

/-- An error object without a line is refused because of it. -/
theorem load_of_badLine (badLine : ¬ (object.field "lineNumber").IsCoordinate) :
    IsRefused ((object.field "lineNumber").refusal limits "lineNumber") (load limits object) :=
  (loadCoordinate_refusal badLine .line).bind

/-- An error object with a line, but without a column, is refused because of the column. -/
theorem load_of_badColumn (line : (object.field "lineNumber").IsCoordinate)
    (badColumn : ¬ (object.field "column").IsCoordinate) :
    IsRefused ((object.field "column").refusal limits "column") (load limits object) := by
  obtain ⟨_, -, lineLoaded⟩ := loadCoordinate_isCoordinate line .line
  exact .behind lineLoaded (loadCoordinate_refusal badColumn .column).bind

/-- Behind a line and a column, the message decides. -/
theorem load_of_place (line : (object.field "lineNumber").IsCoordinate)
    (column : (object.field "column").IsCoordinate) :
    load limits object = do
      let shown ← (← messageOf object).shownText limits
      return ⟨object.field "lineNumber", object.field "column", .text shown⟩ := by
  obtain ⟨lineNumber, isLine, lineLoaded⟩ := loadCoordinate_isCoordinate line .line
  obtain ⟨columnNumber, isColumn, columnLoaded⟩ := loadCoordinate_isCoordinate column .column
  have lineName : Coordinate.line.fieldName = "lineNumber" := rfl
  have columnName : Coordinate.column.fieldName = "column" := rfl
  rw [load, lineName, columnName, lineLoaded, columnLoaded, isLine, isColumn]
  rfl

/-- An error object with a place that tells nothing is refused because of that. -/
theorem load_of_silent (line : (object.field "lineNumber").IsCoordinate)
    (column : (object.field "column").IsCoordinate) (silent : ¬ object.IsTelling) :
    IsRefused (.ok "Error record without message") (load limits object) := by
  rw [load_of_place line column]
  obtain ⟨telling, -⟩ | ⟨-, refused⟩ := messageOf_cases object
  · exact absurd telling silent
  · rw [refused]
    exact ⟨.noMessage, rfl, rfl⟩

/-- An error object with a place is refused if what it tells is not written. -/
theorem load_of_unwritten (line : (object.field "lineNumber").IsCoordinate)
    (column : (object.field "column").IsCoordinate) (telling : object.IsTelling) {fault : Fault}
    (unwritten : object.told.shownText limits = .error fault) :
    load limits object = .error fault := by
  rw [load_of_place line column]
  obtain ⟨-, isMessage⟩ | ⟨silent, -⟩ := messageOf_cases object
  · simp only [isMessage, bind, Except.bind, unwritten]
  · exact absurd telling silent

/-- The record of an error object holds its line, its column and the text of what it tells. -/
theorem load_eq_ok_iff {record : Record} :
    load limits object = .ok record ↔
      (object.field "lineNumber").IsCoordinate ∧ (object.field "column").IsCoordinate ∧
      object.IsTelling ∧ ∃ text, object.told.shownText limits = .ok text ∧
        record = ⟨object.field "lineNumber", object.field "column", .text text⟩ := by
  constructor
  · intro loaded
    obtain ⟨line, column, message, text, ⟨isLine, line_pos⟩, ⟨isColumn, column_pos⟩, isMessage,
      written, rfl⟩ := load_eq_ok.1 loaded
    change object.field "lineNumber" = .int line at isLine
    change object.field "column" = .int column at isColumn
    obtain ⟨telling, isTold⟩ | ⟨-, refused⟩ := messageOf_cases object
    · cases isMessage.symm.trans isTold
      exact ⟨⟨line, isLine, line_pos⟩, ⟨column, isColumn, column_pos⟩, telling, text, written,
        by rw [isLine, isColumn]; rfl⟩
    · cases isMessage.symm.trans refused
  · rintro ⟨line, column, telling, text, written, rfl⟩
    obtain ⟨-, isMessage⟩ | ⟨silent, -⟩ := messageOf_cases object
    · rw [load_of_place line column]
      simp only [isMessage, bind, Except.bind, written]
      rfl
    · exact absurd telling silent

end Load

/-- A mapping and an object with the same fields are loaded alike. -/
theorem load_object (fields : List (String × Value)) :
    load limits (.object fields) = load limits (.mapping fields) := rfl

/-- An exception is loaded as the mapping of its place and its headline. -/
theorem load_exception (raised : Raised) :
    load limits (.exception raised) = load limits (.mapping
      [("lineNumber", (ErrorObject.exception raised).field "lineNumber"),
        ("column", (ErrorObject.exception raised).field "column"),
        ("message", .text raised.headline)]) := rfl

end Record

namespace ModernOutcome

/-- A problem has the same record whether it is raised or tolerated. -/
theorem records_of_same {limits : Limits} {raised : Raised} {tolerated : ErrorObject}
    (same : Record.load limits (.exception raised) = Record.load limits tolerated) :
    ((refused raised).result limits).outcome.map Result.records =
      ((tree (.text "Program") (some [tolerated])).result limits).outcome.map Result.records := by
  simp only [result, requireProgram_program, Option.getD_some, Record.loadAll, same]
  cases Record.load limits tolerated <;> rfl

end ModernOutcome

/-- An error object is loaded exactly if its line and its column are positive integers and it tells
what is wrong; its record holds these three. Otherwise it is refused with the text about the first
of them that is missing, and a number that is not positive is told apart from what is no integer.
All of this goes for values that are written, as all are on a machine without bounds. Where one
would have to be shown that is not, the reason for that is what escapes: it is one of the faults of
the machine. A mapping and an object with the same fields are loaded alike. An exception is loaded
as the mapping of its line, its column and its class and text, so its record is the same whether it
was raised, or tolerated in either form. -/
theorem Record.load_boundary (limits : Limits) :
    (∀ object : ErrorObject,
      let line := object.field "lineNumber"
      let column := object.field "column"
      (∀ record, load limits object = .ok record ↔
        line.IsCoordinate ∧ column.IsCoordinate ∧ object.IsTelling ∧
          ∃ text, object.told.shownText limits = .ok text ∧
            record = ⟨line, column, .text text⟩) ∧
      (¬ line.IsCoordinate →
        IsRefused (line.refusal limits "lineNumber") (load limits object)) ∧
      (line.IsCoordinate → ¬ column.IsCoordinate →
        IsRefused (column.refusal limits "column") (load limits object)) ∧
      (line.IsCoordinate → column.IsCoordinate → ¬ object.IsTelling →
        IsRefused (.ok "Error record without message") (load limits object)) ∧
      (line.IsCoordinate → column.IsCoordinate → object.IsTelling →
        ∀ fault, object.told.shownText limits = .error fault →
          load limits object = .error fault)) ∧
    (∀ value : Value,
      ((∃ text, value.shownText limits = .ok text) ↔ value.IsWritten limits 0) ∧
      (∀ name, (∃ text, value.refusal limits name = .ok text) ↔ value.IsWritten limits 0) ∧
      (∀ fault, value.shownText limits = .error fault → fault ∈ limits.faults) ∧
      (∀ name fault, value.refusal limits name = .error fault → fault ∈ limits.faults) ∧
      (limits.IsUnbounded → value.IsWritten limits 0)) ∧
    (∀ fields, load limits (.object fields) = load limits (.mapping fields)) ∧
    (∀ raised : Raised,
      let described : ErrorObject := .mapping
        [("lineNumber", (ErrorObject.exception raised).field "lineNumber"),
          ("column", (ErrorObject.exception raised).field "column"),
          ("message", .text (raised.className ++ ": " ++ raised.text))]
      load limits (.exception raised) = load limits described ∧
      ∀ tolerated ∈ [ErrorObject.exception raised, described],
        ((ModernOutcome.refused raised).result limits).outcome.map Result.records =
          ((ModernOutcome.tree (.text "Program") (some [tolerated])).result limits).outcome.map
            Result.records) := by
  refine ⟨fun object => ⟨fun _ => load_eq_ok_iff, load_of_badLine, load_of_badColumn,
    load_of_silent, fun line column telling _ => load_of_unwritten line column telling⟩,
    fun value => ⟨Value.shownText_isOk_iff, fun _ => Value.refusal_isOk_iff,
      fun _ => Value.mem_faults_of_shownText, fun _ _ => Value.mem_faults_of_refusal,
      fun unbounded => Value.isWritten_of_unbounded unbounded value⟩,
    load_object, fun raised => ⟨load_exception raised, fun tolerated listed => ?_⟩⟩
  refine ModernOutcome.records_of_same ?_
  rcases List.mem_pair.1 listed with rfl | rfl
  · rfl
  · exact load_exception raised

/-- A truth value is no line, and this is said before anything about the column. An empty message is
a message all the same. -/
theorem truth_value_refused :
    let odd : ErrorObject := .mapping [("lineNumber", .bool true), ("column", .int 0)]
    let terse : ErrorObject := .object [("lineNumber", .int 3), ("column", .int 2),
      ("message", .text ""), ("description", .text "unseen")]
    ¬ (odd.field "lineNumber").IsCoordinate ∧
    (∃ problem, Record.load .usual odd = .error (.badRecord problem) ∧
      problem.message = "Error record has no integer lineNumber (got True)") ∧
    (terse.field "lineNumber").IsCoordinate ∧ (terse.field "column").IsCoordinate ∧
    terse.IsTelling ∧ Record.load .usual terse = .ok (.ofPlace 3 2 "") := by
  intro odd terse
  obtain ⟨objects, -⟩ := Record.load_boundary .usual
  obtain ⟨-, badLine, -⟩ := objects odd
  obtain ⟨loads, -⟩ := objects terse
  have noLine : ¬ (odd.field "lineNumber").IsCoordinate := by
    rintro ⟨number, isNumber, -⟩
    cases isNumber
  have line : (terse.field "lineNumber").IsCoordinate := ⟨3, rfl, by decide⟩
  have column : (terse.field "column").IsCoordinate := ⟨2, rfl, by decide⟩
  have telling : terse.IsTelling := .inr (.inl (by rintro ⟨⟩))
  obtain ⟨problem, refused, text⟩ := badLine noLine
  exact ⟨noLine, ⟨problem, refused, text⟩, line, column, telling,
    (loads _).2 ⟨line, column, telling, "", rfl, rfl⟩⟩

end ScriptCheck
