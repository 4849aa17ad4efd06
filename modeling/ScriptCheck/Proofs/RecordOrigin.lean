import ScriptCheck.Checker
import ScriptCheck.Proofs.FailurePlace
import ScriptCheck.Proofs.Places.Handed

/-!
# Where records come from

A record of a check is that of a problem that the grammar found, or the only record of a crash. Its
message is the text of the problem behind the class of the grammar's syntax errors, or that of the
crash (`Record.message_cases`).
-/

namespace ScriptCheck

open Grammar

/-- The class of the syntax errors of a grammar. -/
def Dialect.errorClass : Dialect → String
  | .modern => "Error"
  | .classic => "JsSyntaxError"

/-- The messages of the crashes of the grammars. -/
def crashMessages (limits : Limits) : List String :=
  ["AssertionError: Template literal must start with a template head",
    "IndexError: list index out of range",
    "RecursionError: maximum recursion depth exceeded",
    "ValueError: " ++ excessText limits.mostDigits]

/-- A record of a crash, in which a grammar breaks down. -/
def Record.IsOfCrash (limits : Limits) (record : Record) : Prop :=
  ∃ message ∈ crashMessages limits, record.message = .text message

variable {limits : Limits}

/-- The modern grammar breaks down in few ways. -/
theorem Modern.headline_of_broken {source : List Char} {tolerant isModule : Bool} {raised : Raised}
    (broken : Modern.outcome limits source tolerant isModule = .broken raised) :
    raised.headline ∈ crashMessages limits := by
  have ofFailure {failure : Modern.Failure} (broken : failure.outcome limits = .broken raised) :
      raised.headline ∈ crashMessages limits := by
    cases failure <;> cases broken <;>
      simp [crashMessages, Raised.headline, Raised.ofArgument]
  unfold Modern.outcome at broken
  split at broken
  · split at broken
    · cases broken
    · exact ofFailure broken
  · split at broken
    · cases broken
    · exact ofFailure broken

/-- A tolerant run that comes to its end has the records of the problems that it tolerated. -/
theorem Modern.check_of_run {source : List Char} {isModule : Bool} {problems : List Problem}
    (ends : Modern.run limits source.toArray isModule = (.ok (), problems))
    (placed : problems.find? Modern.Problem.isMisplaced = none) :
    ((Grammars.standard limits).check source { isModule } Dialect.modern.name).outcome =
      .ok (.success (problems.map Modern.Problem.record)) := by
  have handed : Modern.handed limits source true isModule = problems := by
    simp only [Modern.handed, ends, ↓reduceIte]
  have lines : ∀ problem ∈ problems, 1 ≤ problem.line := fun problem listed =>
    (Modern.handed_placed limits source true isModule problem (handed ▸ listed)).1.1
  rw [Grammars.check_name]
  show ((Modern.outcome limits source true isModule).result limits).outcome = _
  simp only [Modern.outcome, ends, ↓reduceIte]
  rw [Modern.result_completed lines, placed]

/-- A record of the modern grammar is that of a problem, or there was a crash. -/
theorem Modern.record_cases {source : List Char} {setting : Setting} {result : Result}
    (given : ((Grammars.standard limits).check source setting Dialect.modern.name).outcome =
      .ok result)
    {record : Record} (listed : record ∈ result.records) :
    (∃ problem, record = Modern.Problem.record problem) ∨ record.IsOfCrash limits := by
  rw [Grammars.check_name] at given
  have lines := fun problem listed =>
    (Modern.handed_placed limits source setting.tolerant setting.isModule problem listed).1.1
  change ((Modern.outcome limits source setting.tolerant setting.isModule).result
    limits).outcome = _ at given
  obtain completes | ⟨problem, refused, only⟩ | ⟨raised, broken, -⟩ :=
    Modern.outcome_cases limits source setting.tolerant setting.isModule
  · rw [completes, Modern.result_completed lines] at given
    split at given
    · cases given
    · cases given
      obtain ⟨problem, -, rfl⟩ := List.mem_map.1 listed
      exact .inl ⟨problem, rfl⟩
  · rw [refused, Modern.result_refused (lines problem (only ▸ .head _))] at given
    split at given
    · cases given
    · cases given
      exact .inl ⟨problem, List.mem_singleton.1 listed⟩
  · have isCrash := Modern.headline_of_broken broken
    rw [broken] at given
    cases given
    cases List.mem_singleton.1 listed
    exact .inr ⟨raised.headline, isCrash, rfl⟩

namespace Classic

variable {source : List Char} {setting : Setting}

/-- What ends a run, if anything does. -/
def failure? (limits : Limits) (source : List Char) : Option Failure :=
  match program limits (.initial limits source) with
  | .ok _ _ => none
  | .error failure _ => some failure

/-- A run that nothing ends has no records. -/
theorem check_of_none (fails : failure? limits source = none) :
    ((Grammars.standard limits).check source setting Dialect.classic.name).outcome =
      .ok (.success []) := by
  rw [Grammars.check_name]
  show ((outcome limits source).result limits source).outcome = _
  unfold failure? at fails
  unfold outcome
  cases ended : program limits (.initial limits source) with
  | ok _ after => rfl
  | error failure after =>
      rw [ended] at fails
      cases fails

/-- A run that ends with a complaint has a record at its offset. -/
theorem check_of_complaint {line offset : Nat} {found : Complaint}
    (fails : failure? limits source = some (.complaint line offset found)) :
    ((Grammars.standard limits).check source setting Dialect.classic.name).outcome =
      .ok (.failure (.ofPlace (Text.position source offset).line
        (Text.position source offset).column ("JsSyntaxError: " ++ found.text line))) := by
  rw [Grammars.check_name]
  show ((outcome limits source).result limits source).outcome = _
  unfold failure? at fails
  unfold outcome
  cases ended : program limits (.initial limits source) with
  | ok _ after =>
      rw [ended] at fails
      cases fails
  | error failure after =>
      rw [ended] at fails
      cases fails
      have isNumber : ((after.outcome ((Failure.complaint line offset found).ending limits)
          (some offset)).remains .null).offset.integer? = some (offset : Int) := rfl
      exact ClassicOutcome.result_of_failure (.inl rfl) isNumber source

/-- A run that ends with anything else has the record of a crash. -/
theorem check_of_crash {failure : Failure} {raised : Raised}
    (fails : failure? limits source = some failure)
    (broken : failure.ending limits = .broken raised) (setting : Setting) :
    ∃ line column : Int,
      ((Grammars.standard limits).check source setting Dialect.classic.name).outcome =
        .ok (.failure (.ofPlace line column raised.headline)) := by
  rw [Grammars.check_name]
  show ∃ line column : Int, ((outcome limits source).result limits source).outcome =
    .ok (.failure (.ofPlace line column raised.headline))
  unfold failure? at fails
  unfold outcome
  cases ended : program limits (.initial limits source) with
  | ok _ after =>
      rw [ended] at fails
      cases fails
  | error failure after =>
      rw [ended] at fails
      cases fails
      obtain ⟨number, isNumber⟩ : ∃ number,
          ((after.outcome (failure.ending limits) failure.offset?).remains .null).offset.integer? =
            some number := Whereabouts.exists_offset (.inl rfl)
      exact ⟨_, _, ClassicOutcome.result_of_failure (.inr broken) isNumber source⟩

/-- A record of the classic grammar is that of a complaint, or there was a crash. -/
theorem record_cases {result : Result}
    (given : ((Grammars.standard limits).check source setting Dialect.classic.name).outcome =
      .ok result)
    {record : Record} (listed : record ∈ result.records) :
    (∃ line offset found, failure? limits source = some (.complaint line offset found) ∧
      record = .ofPlace (Text.position source offset).line (Text.position source offset).column
        ("JsSyntaxError: " ++ found.text line)) ∨ record.IsOfCrash limits := by
  cases fails : failure? limits source with
  | none =>
      cases (check_of_none fails).symm.trans given
      cases listed
  | some failure =>
      have crash {raised : Raised} (broken : failure.ending limits = .broken raised)
          (isCrash : raised.headline ∈ crashMessages limits) : record.IsOfCrash limits := by
        obtain ⟨line, column, checked⟩ := check_of_crash fails broken setting
        cases checked.symm.trans given
        cases List.mem_singleton.1 listed
        exact ⟨raised.headline, isCrash, rfl⟩
      cases failure with
      | complaint line offset found =>
          cases (check_of_complaint fails).symm.trans given
          cases List.mem_singleton.1 listed
          exact .inl ⟨line, offset, found, rfl, rfl⟩
      | unopenedBrace | tooDeep | longNumber =>
          exact .inr (crash rfl (by simp [crashMessages, Raised.headline, Raised.ofArgument]))

end Classic

/-- The message of a record is the text of a complaint behind the class of the syntax errors of the
grammar, or that of a crash. -/
theorem Record.message_cases {source : List Char} {setting : Setting} {dialect : Dialect}
    {result : Result}
    (given : ((Grammars.standard limits).check source setting dialect.name).outcome = .ok result)
    {record : Record} (listed : record ∈ result.records) :
    (∃ (line : Nat) (found : Complaint),
      record.message = .text (dialect.errorClass ++ ": " ++ found.text line)) ∨
      record.IsOfCrash limits := by
  cases dialect with
  | modern =>
      refine (Modern.record_cases given listed).imp_left ?_
      rintro ⟨problem, rfl⟩
      exact ⟨problem.line, problem.complaint, rfl⟩
  | classic =>
      refine (Classic.record_cases given listed).imp_left ?_
      rintro ⟨line, offset, found, -, rfl⟩
      exact ⟨line, found, rfl⟩

end ScriptCheck
