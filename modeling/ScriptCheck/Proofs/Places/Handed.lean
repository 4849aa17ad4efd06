import ScriptCheck.Modern.Check
import ScriptCheck.Proofs.Diagnostic
import ScriptCheck.Proofs.Places.Program

/-!
# Problems that are handed over

A run of the modern grammar hands over the problems that it tolerated, or the one that ended it.
All of them have places (`handed_placed`), so a record can be loaded of each unless its column
falls below one. `result_of_misplaced` and `result_of_placed` say what a check comes to in either
case.
-/

namespace ScriptCheck.Modern

open ScriptCheck.Grammar

/-- Whether a problem has a column below one, which no record can have. -/
def Problem.isMisplaced (problem : Problem) : Bool := problem.column < 1

/-- The problem that ends a run, if it is one. -/
def Failure.problem? : Failure → Option Problem
  | .problem found => some found
  | _ => none

/-- The problems that a check hands over, in order: those that were tolerated, or the last one. -/
def handed (limits : Limits) (source : List Char) (tolerant isModule : Bool) : List Problem :=
  if tolerant then
    match run limits source.toArray isModule with
    | (.ok _, problems) => problems
    | (.error failure, _) => failure.problem?.toList
  else
    match runStrictly limits source.toArray isModule with
    | .ok _ => []
    | .error failure => failure.problem?.toList

/-- How the record of a misplaced problem is refused. What is said shows the column, unless that has
too many digits. -/
def Problem.refusal (limits : Limits) (problem : Problem) : Fault :=
  match limits.decimal problem.column with
  | .ok shown => .badRecord (.notPositive .column (String.ofList shown))
  | .error fault => fault

variable {limits : Limits}

theorem refusal_of_writes {problem : Problem} (writes : limits.Writes problem.column) :
    Problem.refusal limits problem =
      .badRecord (.notPositive .column (String.ofList (Text.signedDecimal problem.column))) := by
  rw [Problem.refusal, Limits.decimal_of_writes writes]

theorem problem_placed {text : Array Char} {failure : Failure} (placed : Placed text failure) :
    Placed text failure.problem?.toList := by
  cases failure with
  | problem found => exact (placed_cons _ _).2 ⟨placed, placed_nil.2 trivial⟩
  | _ => exact placed_nil.2 trivial

/-- Every problem that is tolerated, and the one that ends the run, have places. -/
theorem run_placed {text : Array Char} (nonempty : text.isEmpty = false) (isModule : Bool) :
    Placed text (run limits text isModule).2 ∧
      ∀ failure, (run limits text isModule).1 = .error failure → Placed text failure := by
  have meets := keeps_program limits isModule _ (initial_sound limits nonempty true)
    (initial_settled limits text true)
  unfold Meets at meets
  unfold run
  split at meets
  next ended =>
    rw [ended]
    exact ⟨(placed_reverse _).2 meets.1.tolerated, fun _ fails => nomatch fails⟩
  next ended =>
    rw [ended]
    refine ⟨(placed_reverse _).2 meets.2, fun failure fails => ?_⟩
    cases fails
    exact meets.1

/-- The problem that ends a strict run has a place. -/
theorem runStrictly_placed {text : Array Char} (nonempty : text.isEmpty = false) (isModule : Bool)
    {failure : Failure} (fails : runStrictly limits text isModule = .error failure) :
    Placed text failure := by
  have meets := keeps_program limits isModule _ (initial_sound limits nonempty false)
    (initial_settled limits text false)
  unfold Meets at meets
  unfold runStrictly at fails
  split at meets
  next ended =>
    rw [ended] at fails
    cases fails
  next ended =>
    rw [ended] at fails
    cases fails
    exact meets.1

/-- An empty source has no problems. -/
theorem handed_nil (tolerant isModule : Bool) : handed limits [] tolerant isModule = [] := by
  cases tolerant <;> cases isModule <;> rfl

/-- Every problem that is handed over has a place. -/
theorem handed_placed (limits : Limits) (source : List Char) (tolerant isModule : Bool) :
    Placed source.toArray (handed limits source tolerant isModule) := by
  cases source with
  | nil =>
      rw [handed_nil]
      exact placed_nil.2 trivial
  | cons first others =>
      have nonempty : (first :: others).toArray.isEmpty = false := rfl
      unfold handed
      split
      · obtain ⟨logged, last⟩ := run_placed nonempty isModule
        split
        next ended =>
          rw [ended] at logged
          exact logged
        next ended =>
          rw [ended] at last
          exact problem_placed (last _ rfl)
      · split
        next => exact placed_nil.2 trivial
        next ended => exact problem_placed (runStrictly_placed nonempty isModule ended)

/-- The columns of a source that can be held are written on every machine. -/
theorem writes_column {source : List Char} {tolerant isModule : Bool}
    (countable : source.length < 9223372036854775808) {problem : Problem}
    (isHanded : problem ∈ handed limits source tolerant isModule) :
    limits.Writes problem.column := by
  obtain ⟨-, column_le, le_column, -⟩ :=
    handed_placed limits source tolerant isModule problem isHanded
  rw [List.size_toArray] at column_le le_column
  exact Limits.writes_of_small (by omega)

/-- The record of a problem that is not misplaced. -/
def Problem.record (problem : Problem) : Record :=
  .ofPlace problem.line problem.column ("Error: " ++ problem.text)

/-- A record can be loaded of a problem unless it is misplaced. -/
theorem load_raised {problem : Problem} (line : 1 ≤ problem.line) :
    Record.load limits (.exception (Problem.raised problem)) =
      if Problem.isMisplaced problem then .error (Problem.refusal limits problem)
      else .ok (Problem.record problem) := by
  have counted : ¬ ((problem.line : Int) < 1) := by omega
  unfold Record.load Problem.isMisplaced
  by_cases misplaced : problem.column < 1
  · have column : Record.loadCoordinate limits .column (.int problem.column) =
        .error (Problem.refusal limits problem) := by
      rw [Record.loadCoordinate, if_pos misplaced, Value.shownText_int, Problem.refusal]
      cases limits.decimal problem.column <;> rfl
    simp [Problem.raised, Raised.ofArgument, ErrorObject.field, Value.field?, Coordinate.fieldName,
      Record.loadCoordinate.eq_1, counted, misplaced, column, bind, Except.bind]
  · simp [Problem.raised, Raised.ofArgument, ErrorObject.field, Value.field?, Coordinate.fieldName,
      Record.loadCoordinate, counted, misplaced, bind, Except.bind, pure,
      Except.pure, Record.messageOf, Raised.headline, Problem.record]

/-- Records can be loaded of several problems unless one is misplaced; then the first such problem
decides. -/
theorem loadAll_raised {problems : List Problem} (lines : ∀ problem ∈ problems, 1 ≤ problem.line) :
    Record.loadAll limits (problems.map fun problem => .exception (Problem.raised problem)) =
      match problems.find? Problem.isMisplaced with
      | some problem => .error (Problem.refusal limits problem)
      | none => .ok (problems.map Problem.record) := by
  induction problems with
  | nil => rfl
  | cons problem problems inductionHypothesis =>
      have othersLoaded := inductionHypothesis fun other later => lines other (.tail _ later)
      rw [List.map_cons, Record.loadAll, load_raised (lines problem (.head _)), othersLoaded,
        List.find?_cons]
      cases Problem.isMisplaced problem with
      | true => rfl
      | false =>
          cases problems.find? Problem.isMisplaced with
          | none => rfl
          | some other => rfl

/-- A run that came to the end has a result unless it tolerated a misplaced problem. -/
theorem result_completed {problems : List Problem}
    (lines : ∀ problem ∈ problems, 1 ≤ problem.line) :
    ((completed problems).result limits).outcome =
      match problems.find? Problem.isMisplaced with
      | some problem => .error (Problem.refusal limits problem)
      | none => .ok (.success (problems.map Problem.record)) := by
  have loaded : Record.loadAll limits _ = _ := loadAll_raised lines
  have isProgram : requireProgram limits (.text "Program") = .ok () := rfl
  simp only [completed, ModernOutcome.result, isProgram, Option.getD_some, loaded]
  cases problems.find? Problem.isMisplaced with
  | none => rfl
  | some problem => rfl

/-- A run that was refused has a result unless the problem is misplaced. -/
theorem result_refused {problem : Problem} (line : 1 ≤ problem.line) :
    ((ModernOutcome.refused (Problem.raised problem)).result limits).outcome =
      if Problem.isMisplaced problem then .error (Problem.refusal limits problem)
      else .ok (.failure (Problem.record problem)) := by
  simp only [ModernOutcome.result, load_raised line]
  cases Problem.isMisplaced problem with
  | true => rfl
  | false => rfl

/-- A check completes with what it hands over, or is refused for it, or breaks down. -/
theorem outcome_cases (limits : Limits) (source : List Char) (tolerant isModule : Bool) :
    outcome limits source tolerant isModule =
        completed (handed limits source tolerant isModule) ∨
      (∃ problem, outcome limits source tolerant isModule = .refused (Problem.raised problem) ∧
        handed limits source tolerant isModule = [problem]) ∨
      ∃ raised, outcome limits source tolerant isModule = .broken raised ∧
        handed limits source tolerant isModule = [] := by
  have failed : ∀ failure : Failure,
      (∃ problem, failure.outcome limits = .refused (Problem.raised problem) ∧
        failure.problem?.toList = [problem]) ∨
      ∃ raised, failure.outcome limits = .broken raised ∧ failure.problem?.toList = [] := by
    intro failure
    cases failure with
    | problem found => exact .inl ⟨found, rfl, rfl⟩
    | _ => exact .inr ⟨_, rfl, rfl⟩
  unfold outcome handed
  cases tolerant with
  | true =>
      rcases run limits source.toArray isModule with ⟨ended | ended, problems⟩
      · exact .inr (failed ended)
      · exact .inl rfl
  | false =>
      rcases runStrictly limits source.toArray isModule with ended | ended
      · exact .inr (failed ended)
      · exact .inl rfl

variable {source : List Char} {tolerant isModule : Bool}

/-- A misplaced problem ends a check, the first of several. -/
theorem result_of_misplaced {problem : Problem}
    (found : (handed limits source tolerant isModule).find? Problem.isMisplaced = some problem) :
    ((outcome limits source tolerant isModule).result limits).outcome =
      .error (Problem.refusal limits problem) := by
  have lines := fun problem listed =>
    (handed_placed limits source tolerant isModule problem listed).1.1
  obtain completes | ⟨last, refused, only⟩ | ⟨raised, -, none⟩ :=
    outcome_cases limits source tolerant isModule
  · rw [completes, result_completed lines, found]
  · rw [only] at found lines
    have misplaced := List.find?_some found
    obtain rfl : last = problem := (List.mem_singleton.1 (List.mem_of_find?_eq_some found)).symm
    rw [refused, result_refused (lines last (.head _)), if_pos misplaced]
  · rw [none] at found
    cases found

/-- Without misplaced problems a check has a result, with the records of the problems or with one at
the start of the source. -/
theorem result_of_placed
    (found : (handed limits source tolerant isModule).find? Problem.isMisplaced = none) :
    ∃ result, ((outcome limits source tolerant isModule).result limits).outcome = .ok result ∧
      ((∃ message, result.records = [.ofPlace 1 1 message]) ∨
        result.records = (handed limits source tolerant isModule).map Problem.record) := by
  have lines := fun problem listed =>
    (handed_placed limits source tolerant isModule problem listed).1.1
  obtain completes | ⟨last, refused, only⟩ | ⟨raised, broken, -⟩ :=
    outcome_cases limits source tolerant isModule
  · refine ⟨.success ((handed limits source tolerant isModule).map Problem.record), ?_, .inr rfl⟩
    rw [completes, result_completed lines, found]
  · rw [only] at found lines ⊢
    have placed : ¬ Problem.isMisplaced last = true :=
      List.find?_eq_none.1 found last (.head _)
    refine ⟨.failure (Problem.record last), ?_, .inr rfl⟩
    rw [refused, result_refused (lines last (.head _)), if_neg placed]
  · rw [broken]
    exact ⟨_, rfl, .inl ⟨_, rfl⟩⟩

end ScriptCheck.Modern
