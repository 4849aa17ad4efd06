import ScriptCheck.Checker
import ScriptCheck.Proofs.Limits

/-!
# Diagnostics

A record made by hand may hold anything. A `Diagnostic` is what the records hold that loading makes:
a positive line, a positive column and a text. Every result of a check consists of them, whatever
the grammars do: `Grammars.check_isSound`.
-/

namespace ScriptCheck

/-- A place in a script with both numbers positive, and what is wrong there. -/
@[ext] structure Diagnostic where
  line : Int
  column : Int
  message : String
  line_pos : 1 ≤ line
  column_pos : 1 ≤ column

/-- A diagnostic as a record. -/
def Diagnostic.record (diagnostic : Diagnostic) : Record :=
  .ofPlace diagnostic.line diagnostic.column diagnostic.message

/-- A diagnostic is known by its record. -/
theorem Diagnostic.record_injective {diagnostic other : Diagnostic}
    (same : diagnostic.record = other.record) : diagnostic = other := by
  simp only [record, Record.ofPlace, Record.mk.injEq, Value.int.injEq, Value.text.injEq] at same
  exact Diagnostic.ext same.1 same.2.1 same.2.2

/-- A record that holds a diagnostic. -/
def Record.IsDiagnostic (record : Record) : Prop :=
  ∃ diagnostic : Diagnostic, diagnostic.record = record

/-- A result all of whose records hold diagnostics. -/
def Result.IsSound (result : Result) : Prop :=
  ∀ record ∈ result.records, record.IsDiagnostic

/-- A chain of steps succeeds when each of them does. -/
theorem bind_eq_ok {ε α β : Type} {first : Except ε α} {next : α → Except ε β} {last : β} :
    first >>= next = .ok last ↔ ∃ middle, first = .ok middle ∧ next middle = .ok last := by
  cases first <;> simp [bind, Except.bind]

/-- A success that is changed comes of a success. -/
theorem map_eq_ok {ε α β : Type} {change : α → β} {before : Except ε α} {after : β} :
    before.map change = .ok after ↔ ∃ value, before = .ok value ∧ change value = after := by
  cases before <;> simp [Except.map]

namespace Record

variable {limits : Limits}

/-- A record of positive numbers holds a diagnostic. -/
theorem ofPlace_isDiagnostic {line column : Int} (line_pos : 1 ≤ line) (column_pos : 1 ≤ column)
    (message : String) : (ofPlace line column message).IsDiagnostic :=
  ⟨⟨line, column, message, line_pos, column_pos⟩, rfl⟩

/-- Records that hold diagnostics are the records of some diagnostics. -/
theorem exists_diagnostics {records : List Record}
    (sound : ∀ record ∈ records, record.IsDiagnostic) :
    ∃ diagnostics : List Diagnostic, diagnostics.map Diagnostic.record = records := by
  induction records with
  | nil => exact ⟨[], rfl⟩
  | cons record records inductionHypothesis =>
      obtain ⟨diagnostic, rfl⟩ := sound record List.mem_cons_self
      obtain ⟨diagnostics, rfl⟩ := inductionHypothesis fun record later =>
        sound record (List.mem_cons_of_mem _ later)
      exact ⟨diagnostic :: diagnostics, rfl⟩

/-- A coordinate is loaded exactly when it is a positive integer. -/
theorem loadCoordinate_eq_ok {coordinate : Coordinate} {value : Value} {number : Int} :
    loadCoordinate limits coordinate value = .ok number ↔ value = .int number ∧ 1 ≤ number := by
  have refused {shown : Except Fault String} {refuse : String → RecordProblem} :
      ¬ (do throw (Fault.badRecord (refuse (← shown))) : Except Fault Int) = .ok number := by
    cases shown <;> exact fun same => nomatch same
  cases value with
  | int found =>
      by_cases small : found < 1
      · rw [loadCoordinate, if_pos small]
        refine iff_of_false refused ?_
        rintro ⟨⟨⟩, positive⟩
        omega
      · simp only [loadCoordinate, small, ↓reduceIte, Except.ok.injEq, Value.int.injEq]
        omega
  | _ => exact iff_of_false refused fun isNumber => nomatch isNumber.1

/-- An error object is loaded exactly when both of its coordinates are positive integers and it has
a message that can be shown. -/
theorem load_eq_ok {object : ErrorObject} {record : Record} :
    load limits object = .ok record ↔
      ∃ line column message shown,
        (object.field Coordinate.line.fieldName = .int line ∧ 1 ≤ line) ∧
        (object.field Coordinate.column.fieldName = .int column ∧ 1 ≤ column) ∧
        messageOf object = .ok message ∧ message.shownText limits = .ok shown ∧
        ofPlace line column shown = record := by
  simp only [load, bind_eq_ok, loadCoordinate_eq_ok, pure, Except.pure, Except.ok.injEq]
  constructor
  · rintro ⟨line, lineFound, column, columnFound, message, messageFound, shown, isShown, made⟩
    exact ⟨line, column, message, shown, lineFound, columnFound, messageFound, isShown, made⟩
  · rintro ⟨line, column, message, shown, lineFound, columnFound, messageFound, isShown, made⟩
    exact ⟨line, lineFound, column, columnFound, message, messageFound, shown, isShown, made⟩

/-- Loading makes a diagnostic, if it makes anything. -/
theorem load_isDiagnostic {object : ErrorObject} {record : Record}
    (loaded : load limits object = .ok record) : record.IsDiagnostic := by
  obtain ⟨line, column, message, shown, ⟨-, line_pos⟩, ⟨-, column_pos⟩, -, -, rfl⟩ :=
    load_eq_ok.1 loaded
  exact ofPlace_isDiagnostic line_pos column_pos _

/-- A complete mapping is loaded with what it holds. -/
theorem load_mapping {line column : Int} (line_pos : 1 ≤ line) (column_pos : 1 ≤ column)
    (message : String) :
    load limits (.mapping [("lineNumber", .int line), ("column", .int column),
      ("message", .text message)]) = .ok (ofPlace line column message) :=
  load_eq_ok.2 ⟨line, column, .text message, message, ⟨rfl, line_pos⟩, ⟨rfl, column_pos⟩, rfl,
    Value.shownText_text message, rfl⟩

/-- Loading several error objects makes diagnostics of all, if it makes anything. -/
theorem loadAll_isDiagnostic {objects : List ErrorObject} {records : List Record}
    (loaded : loadAll limits objects = .ok records) : ∀ record ∈ records, record.IsDiagnostic := by
  induction objects generalizing records with
  | nil =>
      cases loaded
      simp
  | cons object objects inductionHypothesis =>
      obtain ⟨first, firstLoaded, loaded⟩ := bind_eq_ok.1 loaded
      obtain ⟨others, othersLoaded, loaded⟩ := bind_eq_ok.1 loaded
      cases loaded
      simpa using ⟨load_isDiagnostic firstLoaded, inductionHypothesis othersLoaded⟩

end Record

namespace Result

theorem success_isSound {records : List Record}
    (sound : ∀ record ∈ records, record.IsDiagnostic) : (success records).IsSound := sound

theorem failure_isSound {record : Record} (sound : record.IsDiagnostic) :
    (failure record).IsSound := by
  simpa [IsSound, failure] using sound

end Result

variable {limits : Limits}

/-- Whatever place an exception is given, its record holds a diagnostic. -/
theorem Whereabouts.record_isDiagnostic {remains : Whereabouts} {source : List Char}
    {raised : Raised} {record : Record}
    (made : remains.record limits source raised = .ok record) : record.IsDiagnostic := by
  obtain ⟨place, -, loaded⟩ := bind_eq_ok.1 made
  exact Record.load_isDiagnostic loaded

/-- The modern grammar may do anything; a result that comes of it is sound. -/
theorem ModernOutcome.result_isSound {outcome : ModernOutcome} {result : Result}
    (given : (outcome.result limits).outcome = .ok result) : result.IsSound := by
  cases outcome with
  | tree type errors =>
      obtain ⟨-, -, given⟩ := bind_eq_ok.1 given
      obtain ⟨records, loaded, given⟩ := bind_eq_ok.1 given
      cases given
      exact Result.success_isSound (Record.loadAll_isDiagnostic loaded)
  | refused error =>
      obtain ⟨record, loaded, given⟩ := bind_eq_ok.1 given
      cases given
      exact Result.failure_isSound (Record.load_isDiagnostic loaded)
  | broken error =>
      cases given
      exact Result.failure_isSound (Record.ofPlace_isDiagnostic (by decide) (by decide) _)

/-- The classic grammar may do anything; a result that comes of it is sound. -/
theorem ClassicOutcome.result_isSound {source : List Char} {outcome : ClassicOutcome}
    {result : Result} (given : (outcome.result limits source).outcome = .ok result) :
    result.IsSound := by
  have ofRecord : ∀ raised,
      ((outcome.remains .null).record limits source raised).map Result.failure = .ok result →
        result.IsSound := by
    intro raised made
    obtain ⟨record, recorded, rfl⟩ := map_eq_ok.1 made
    exact Result.failure_isSound (Whereabouts.record_isDiagnostic recorded)
  unfold ClassicOutcome.result at given
  split at given
  next =>
    obtain ⟨-, -, rfl⟩ := map_eq_ok.1 given
    exact Result.success_isSound (by simp)
  next => exact ofRecord _ given
  next => exact ofRecord _ given

/-- The name of a dialect chooses it. -/
@[simp] theorem Dialect.ofName?_name (dialect : Dialect) : ofName? dialect.name = some dialect := by
  cases dialect <;> rfl

namespace Grammars

variable {grammars : Grammars} {source : List Char} {setting : Setting}

/-- A check by the name of a dialect is a check with the dialect. -/
theorem check_name (dialect : Dialect) :
    grammars.check source setting dialect.name = grammars.checkWith source setting dialect := by
  simp [check]

/-- Whatever the grammars do, the result of a check is sound. -/
theorem check_isSound {name : String} {result : Result}
    (given : (grammars.check source setting name).outcome = .ok result) : result.IsSound := by
  unfold check at given
  cases chosen : Dialect.ofName? name with
  | none => simp [chosen] at given
  | some dialect =>
      rw [chosen] at given
      cases dialect with
      | modern => exact ModernOutcome.result_isSound given
      | classic => exact ClassicOutcome.result_isSound given

end Grammars

end ScriptCheck
