import Mathlib.Data.List.Forall2
import ScriptCheck.Proofs.FailurePlace

/-!
# What becomes of an outcome

A grammar may hand back any tree with any errors, refuse the source, or break down. `Converted` says
for each of these outcomes what a check comes to: a result with one record for each error, in their
order, or the fault that escapes. The relations are the rule, and `outcomes_converted` says that a
check follows them for any grammars on any machine.
-/

namespace ScriptCheck

/-- A chain of steps fails when its first step does, or the rest behind it. -/
theorem bind_eq_error {ε α β : Type} {first : Except ε α} {next : α → Except ε β} {failure : ε} :
    first >>= next = .error failure ↔
      first = .error failure ∨ ∃ middle, first = .ok middle ∧ next middle = .error failure := by
  cases first <;> simp [bind, Except.bind]

namespace Record

variable {limits : Limits}

/-- What is wrong with a coordinate is said about it, unless its text is out of reach of the
machine. -/
theorem loadCoordinate_fault {coordinate : Coordinate} {value : Value} {fault : Fault}
    (fails : loadCoordinate limits coordinate value = .error fault) :
    (∃ problem, fault = .badRecord problem) ∨ fault ∈ limits.faults := by
  have refused {text : Except Fault String} {refuse : String → RecordProblem}
      (unwritten : ∀ fault, text = .error fault → fault ∈ limits.faults)
      (fails : (do throw (Fault.badRecord (refuse (← text))) : Except Fault Int) = .error fault) :
      (∃ problem, fault = .badRecord problem) ∨ fault ∈ limits.faults := by
    rcases bind_eq_error.1 fails with failed | ⟨shown, -, thrown⟩
    · exact .inr (unwritten _ failed)
    · cases thrown
      exact .inl ⟨_, rfl⟩
  cases value with
  | int number =>
      rw [loadCoordinate] at fails
      split at fails
      · exact refused (fun _ => Value.mem_faults_of_shownText) fails
      · cases fails
  | _ => exact refused (fun _ => Value.mem_faults_of_quotedText) fails

theorem messageOf_fault {object : ErrorObject} {fault : Fault}
    (fails : messageOf object = .error fault) : ∃ problem, fault = .badRecord problem := by
  unfold messageOf at fails
  split at fails
  next => cases fails
  next =>
    split at fails
    next =>
      split at fails
      next =>
        cases fails
        exact ⟨_, rfl⟩
      next => cases fails
    next => cases fails

/-- What is wrong with an error object is said about it, unless a text for that is out of reach of
the machine. -/
theorem load_fault {object : ErrorObject} {fault : Fault}
    (fails : load limits object = .error fault) :
    (∃ problem, fault = .badRecord problem) ∨ fault ∈ limits.faults := by
  simp only [load, bind_eq_error, pure, Except.pure, reduceCtorEq, and_false, exists_false,
    or_false] at fails
  obtain line | ⟨-, -, column | ⟨-, -, message | ⟨message, -, unshown⟩⟩⟩ := fails
  · exact loadCoordinate_fault line
  · exact loadCoordinate_fault column
  · exact .inl (messageOf_fault message)
  · exact .inr (Value.mem_faults_of_shownText unshown)

/-- Error objects are loaded when each of them is, into as many records in the same order. -/
theorem loadAll_eq_ok {objects : List ErrorObject} {records : List Record} :
    loadAll limits objects = .ok records ↔
      List.Forall₂ (fun object record => load limits object = .ok record) objects records := by
  induction objects generalizing records with
  | nil => cases records <;> simp [loadAll]
  | cons object objects inductionHypothesis =>
      rw [loadAll, bind_eq_ok, List.forall₂_cons_left_iff]
      simp only [bind_eq_ok, inductionHypothesis, pure, Except.pure, Except.ok.injEq]
      constructor
      · rintro ⟨record, loaded, others, othersLoaded, rfl⟩
        exact ⟨record, others, loaded, othersLoaded, rfl⟩
      · rintro ⟨record, others, loaded, othersLoaded, rfl⟩
        exact ⟨record, loaded, others, othersLoaded, rfl⟩

/-- Otherwise the first error object that is no record decides. -/
theorem loadAll_eq_error {objects : List ErrorObject} {fault : Fault} :
    loadAll limits objects = .error fault ↔
      ∃ earlier object later, objects = earlier ++ object :: later ∧
        (∀ other ∈ earlier, ∃ record, load limits other = .ok record) ∧
        load limits object = .error fault := by
  induction objects with
  | nil => simp [loadAll]
  | cons first objects inductionHypothesis =>
      simp only [loadAll, bind_eq_error, inductionHypothesis, pure, Except.pure, reduceCtorEq,
        and_false, exists_false, or_false]
      constructor
      · rintro (refused | ⟨record, loaded, earlier, object, later, rfl, earlierLoaded, refused⟩)
        · exact ⟨[], first, objects, rfl, fun _ listed => absurd listed List.not_mem_nil, refused⟩
        · exact ⟨first :: earlier, object, later, rfl,
            List.forall_mem_cons.2 ⟨⟨record, loaded⟩, earlierLoaded⟩, refused⟩
      · rintro ⟨earlier, object, later, same, earlierLoaded, refused⟩
        cases earlier with
        | nil =>
            obtain ⟨rfl, -⟩ := List.cons.inj same
            exact .inl refused
        | cons other earlier =>
            obtain ⟨rfl, rfl⟩ := List.cons.inj same
            obtain ⟨⟨record, loaded⟩, earlierLoaded⟩ := List.forall_mem_cons.1 earlierLoaded
            exact .inr ⟨record, loaded, earlier, object, later, rfl, earlierLoaded, refused⟩

end Record

/-- Only the text itself counts as the type of a tree. -/
theorem requireProgram_program (limits : Limits) :
    requireProgram limits (.text "Program") = .ok () := rfl

/-- Any other type is refused with its text, if it has one. -/
theorem requireProgram_of_ne {limits : Limits} {type : Value} (other : type ≠ .text "Program") :
    requireProgram limits type = .error
      (match type.shownText limits with
        | .ok shown => .notAProgram shown
        | .error fault => fault) := by
  have unequal : type.equal (.text "Program") = false := by
    cases type with
    | text characters =>
        simp only [ne_eq, Value.text.injEq] at other
        simp [Value.equal, other]
    | _ => rfl
  rw [requireProgram, unequal]
  cases type.shownText limits <;> rfl

namespace ModernOutcome

/-- What a check with the modern grammar comes to. -/
inductive Converted (limits : Limits) : ModernOutcome → Except Fault Result → Prop where
  /-- Every tolerated error is a record of the result. -/
  | program {errors : Option (List ErrorObject)} {records : List Record}
      (loaded : List.Forall₂ (fun object record => Record.load limits object = .ok record)
        (errors.getD []) records) :
      Converted limits (.tree (.text "Program") errors) (.ok ⟨.completed, records⟩)
  /-- The first tolerated error that is no record escapes. -/
  | badError {errors : Option (List ErrorObject)} {earlier later : List ErrorObject}
      {object : ErrorObject} {fault : Fault}
      (cut : errors.getD [] = earlier ++ object :: later)
      (earlierLoaded : ∀ other ∈ earlier, ∃ record, Record.load limits other = .ok record)
      (bad : Record.load limits object = .error fault) :
      Converted limits (.tree (.text "Program") errors) (.error fault)
  /-- Whatever errors a tree of another type has, it is refused with the text of the type. -/
  | otherTree {type : Value} {errors : Option (List ErrorObject)} {shown : String}
      (other : type ≠ .text "Program") (shows : type.shownText limits = .ok shown) :
      Converted limits (.tree type errors) (.error (.notAProgram shown))
  /-- Such a tree is refused in another way if its type has no text. -/
  | unshownTree {type : Value} {errors : Option (List ErrorObject)} {fault : Fault}
      (other : type ≠ .text "Program") (unwritten : type.shownText limits = .error fault) :
      Converted limits (.tree type errors) (.error fault)
  | refused {raised : Raised} {record : Record}
      (loaded : Record.load limits (.exception raised) = .ok record) :
      Converted limits (.refused raised) (.ok ⟨.stopped, [record]⟩)
  | badRefusal {raised : Raised} {fault : Fault}
      (bad : Record.load limits (.exception raised) = .error fault) :
      Converted limits (.refused raised) (.error fault)
  | broken (raised : Raised) :
      Converted limits (.broken raised)
        (.ok ⟨.stopped, [.ofPlace 1 1 (raised.className ++ ": " ++ raised.text)]⟩)

/-- Whether the grammar raised something. -/
def Raises : ModernOutcome → Prop
  | .tree .. => False
  | .refused _ | .broken _ => True

variable {limits : Limits}

/-- Every outcome comes to something. -/
theorem converted_result (limits : Limits) (outcome : ModernOutcome) :
    outcome.Converted limits (outcome.result limits).outcome := by
  cases outcome with
  | broken raised => exact .broken raised
  | refused raised =>
      cases loaded : Record.load limits (.exception raised) with
      | ok record =>
          simp only [result, loaded]
          exact .refused loaded
      | error fault =>
          simp only [result, loaded]
          exact .badRefusal loaded
  | tree type errors =>
      by_cases isProgram : type = .text "Program"
      · subst isProgram
        cases loaded : Record.loadAll limits (errors.getD []) with
        | ok records =>
            simp only [result, requireProgram_program, loaded]
            exact .program (Record.loadAll_eq_ok.1 loaded)
        | error fault =>
            obtain ⟨earlier, object, later, cut, earlierLoaded, bad⟩ :=
              Record.loadAll_eq_error.1 loaded
            simp only [result, requireProgram_program, loaded]
            exact .badError cut earlierLoaded bad
      · simp only [result, requireProgram_of_ne isProgram]
        cases shows : type.shownText limits with
        | ok shown => exact .otherTree isProgram shows
        | error fault => exact .unshownTree isProgram shows

/-- No outcome comes to two things. -/
theorem Converted.eq_result {outcome : ModernOutcome} {converted : Except Fault Result}
    (becomes : outcome.Converted limits converted) :
    (outcome.result limits).outcome = converted := by
  cases becomes with
  | program loaded =>
      simp only [result, requireProgram_program, Record.loadAll_eq_ok.2 loaded]
      rfl
  | badError cut earlierLoaded bad =>
      have refused := Record.loadAll_eq_error.2 ⟨_, _, _, cut, earlierLoaded, bad⟩
      simp only [result, requireProgram_program, refused]
      rfl
  | otherTree other shows =>
      simp only [result, requireProgram_of_ne other, shows]
      rfl
  | unshownTree other unwritten =>
      simp only [result, requireProgram_of_ne other, unwritten]
      rfl
  | refused loaded =>
      simp only [result, loaded]
      rfl
  | badRefusal bad =>
      simp only [result, bad]
      rfl
  | broken raised => rfl

/-- A check comes to what the outcome of the grammar is converted to. -/
theorem converted_iff {outcome : ModernOutcome} {converted : Except Fault Result} :
    outcome.Converted limits converted ↔ (outcome.result limits).outcome = converted :=
  ⟨Converted.eq_result, fun same => same ▸ converted_result limits outcome⟩

/-- A result is stopped exactly if the grammar raised something, and has one record then. -/
theorem stopped_iff {outcome : ModernOutcome} {result : Result}
    (given : (outcome.result limits).outcome = .ok result) :
    (result.verdict.isStopped = true ↔ outcome.Raises) ∧
      (outcome.Raises → result.records.length = 1) := by
  cases converted_iff.2 given with
  | program loaded => exact ⟨⟨(absurd · Bool.false_ne_true), False.elim⟩, False.elim⟩
  | refused loaded => exact ⟨⟨fun _ => trivial, fun _ => rfl⟩, fun _ => rfl⟩
  | broken raised => exact ⟨⟨fun _ => trivial, fun _ => rfl⟩, fun _ => rfl⟩

end ModernOutcome

namespace ClassicOutcome

/-- What a check with the classic grammar comes to. It tolerates nothing, and a failure is placed at
the best known offset. -/
inductive Converted (limits : Limits) (source : List Char) (outcome : ClassicOutcome) :
    Except Fault Result → Prop where
  | program (ending : outcome.ending = .tree (.text "Program")) :
      Converted limits source outcome (.ok ⟨.completed, []⟩)
  | otherTree {type : Value} {shown : String} (ending : outcome.ending = .tree type)
      (other : type ≠ .text "Program") (shows : type.shownText limits = .ok shown) :
      Converted limits source outcome (.error (.notAProgram shown))
  | unshownTree {type : Value} {fault : Fault} (ending : outcome.ending = .tree type)
      (other : type ≠ .text "Program") (unwritten : type.shownText limits = .error fault) :
      Converted limits source outcome (.error fault)
  | failed {raised : Raised} {number : Int}
      (fails : outcome.ending = .refused raised ∨ outcome.ending = .broken raised)
      (isNumber : (outcome.remains .null).offset.integer? = some number) :
      Converted limits source outcome (.ok ⟨.stopped,
        [.ofPlace (Text.position source number).line (Text.position source number).column
          (raised.className ++ ": " ++ raised.text)]⟩)

/-- Whether the grammar raised something. -/
def Raises (outcome : ClassicOutcome) : Prop :=
  ∃ raised, outcome.ending = .refused raised ∨ outcome.ending = .broken raised

variable {limits : Limits} {source : List Char} {outcome : ClassicOutcome}

/-- Every outcome comes to something where the reader left a number or nothing at all. -/
theorem converted_result (index : outcome.index.integer?.isSome ∨ outcome.index.isEmpty) :
    outcome.Converted limits source (outcome.result limits source).outcome := by
  obtain ⟨number, isNumber⟩ : ∃ number, (outcome.remains .null).offset.integer? = some number :=
    Whereabouts.exists_offset index
  have failed (raised : Raised)
      (fails : outcome.ending = .refused raised ∨ outcome.ending = .broken raised) :
      outcome.Converted limits source (outcome.result limits source).outcome := by
    rw [result_of_failure fails isNumber source]
    exact .failed fails isNumber
  cases ending : outcome.ending with
  | refused raised => exact failed raised (.inl ending)
  | broken raised => exact failed raised (.inr ending)
  | tree type =>
      by_cases isProgram : type = .text "Program"
      · subst isProgram
        simp only [result, ending, requireProgram_program]
        exact .program ending
      · simp only [result, ending, requireProgram_of_ne isProgram]
        cases shows : type.shownText limits with
        | ok shown => exact .otherTree ending isProgram shows
        | error fault => exact .unshownTree ending isProgram shows

/-- No outcome comes to two things. -/
theorem Converted.eq_result {converted : Except Fault Result}
    (becomes : outcome.Converted limits source converted) :
    (outcome.result limits source).outcome = converted := by
  cases becomes with
  | program ending =>
      simp only [result, ending, requireProgram_program]
      rfl
  | otherTree ending other shows =>
      simp only [result, ending, requireProgram_of_ne other, shows]
      rfl
  | unshownTree ending other unwritten =>
      simp only [result, ending, requireProgram_of_ne other, unwritten]
      rfl
  | failed fails isNumber => exact result_of_failure fails isNumber source

/-- A check comes to what the outcome of the grammar is converted to. -/
theorem converted_iff (index : outcome.index.integer?.isSome ∨ outcome.index.isEmpty)
    {converted : Except Fault Result} :
    outcome.Converted limits source converted ↔
      (outcome.result limits source).outcome = converted :=
  ⟨Converted.eq_result, fun same => same ▸ converted_result index⟩

/-- A result is stopped exactly if the grammar raised something, and has one record then. -/
theorem stopped_iff {result : Result}
    (given : (outcome.result limits source).outcome = .ok result) :
    (result.verdict.isStopped = true ↔ outcome.Raises) ∧
      (outcome.Raises → result.records.length = 1) := by
  have failed (raised : Raised)
      (fails : outcome.ending = .refused raised ∨ outcome.ending = .broken raised)
      (made : ((outcome.remains .null).record limits source raised).map Result.failure =
        .ok result) :
      (result.verdict.isStopped = true ↔ outcome.Raises) ∧
        (outcome.Raises → result.records.length = 1) := by
    obtain ⟨record, -, rfl⟩ := map_eq_ok.1 made
    exact ⟨⟨fun _ => ⟨raised, fails⟩, fun _ => rfl⟩, fun _ => rfl⟩
  unfold ClassicOutcome.result at given
  split at given
  next type ending =>
    obtain ⟨-, -, rfl⟩ := map_eq_ok.1 given
    have quiet : ¬ outcome.Raises := by
      rintro ⟨raised, other | other⟩ <;> cases ending.symm.trans other
    exact ⟨⟨(absurd · Bool.false_ne_true), (absurd · quiet)⟩, (absurd · quiet)⟩
  next raised ending => exact failed raised (.inl ending) given
  next raised ending => exact failed raised (.inr ending) given

end ClassicOutcome

/-- Whether a grammar raises something about a source. -/
def Grammars.Raises (grammars : Grammars) (source : List Char) (setting : Setting) : Dialect → Prop
  | .modern => (grammars.modern source setting).Raises
  | .classic => (grammars.classic source).Raises

/-- A report on sound records whose columns can be counted to shows each of them in a block, up to
the first whose line has too many digits. -/
theorem Report.blocks_of_isSound {result : Result} (sound : result.IsSound) (limits : Limits)
    (source : List Char) :
    ∃ diagnostics : List Diagnostic, diagnostics.map Diagnostic.record = result.records ∧
      ((∀ diagnostic ∈ diagnostics, diagnostic.column < 9223372036854775808) →
        ∀ filepath, let report := make limits filepath source result.records
          report.fault = Diagnostic.digitFault? limits diagnostics ∧
          report.blocks = (Diagnostic.shown limits diagnostics).map
            (Diagnostic.block filepath (Text.lines source))) := by
  obtain ⟨diagnostics, records⟩ := Record.exists_diagnostics sound
  refine ⟨diagnostics, records, fun small filepath => ?_⟩
  obtain ⟨blocks_eq, -, fault_eq⟩ := ofLines_record limits filepath (Text.lines source) small
  rw [make, ← records]
  exact ⟨fault_eq, blocks_eq⟩

/-- Whatever the grammars do with a source, checks convert it by the rules. What is wrong with an
error object, and what the type of a tree is, is said with a text wherever the machine can make one.
A result is stopped exactly if the grammar raised something, and has one record then. It is a
success if nothing was raised and nothing tolerated. A report shows each of its records in a block,
in their order, up to the first whose line has too many digits. -/
theorem outcomes_converted (grammars : Grammars) (source : List Char) (setting : Setting) :
    (∀ converted, (grammars.modern source setting).Converted grammars.limits converted ↔
      (grammars.check source setting Dialect.modern.name).outcome = converted) ∧
    ((grammars.classic source).index.integer?.isSome ∨ (grammars.classic source).index.isEmpty →
      ∀ converted, (grammars.classic source).Converted grammars.limits source converted ↔
        (grammars.check source setting Dialect.classic.name).outcome = converted) ∧
    (∀ shown, (Fault.notAProgram shown).message = "Invalid AST " ++ shown) ∧
    (∀ type : Value,
      ((∃ shown, type.shownText grammars.limits = .ok shown) ↔ type.IsWritten grammars.limits 0) ∧
      ∀ fault, type.shownText grammars.limits = .error fault → fault ∈ grammars.limits.faults) ∧
    (∀ object fault, Record.load grammars.limits object = .error fault →
      (∃ problem, fault = .badRecord problem) ∨ fault ∈ grammars.limits.faults) ∧
    ∀ (dialect : Dialect) (result : Result),
      (grammars.check source setting dialect.name).outcome = .ok result →
      (result.verdict.isStopped = true ↔ grammars.Raises source setting dialect) ∧
      (grammars.Raises source setting dialect → result.records.length = 1) ∧
      (Report.verdict result = .success ↔
        ¬ grammars.Raises source setting dialect ∧ result.records = []) ∧
      ∃ diagnostics : List Diagnostic, diagnostics.map Diagnostic.record = result.records ∧
        ((∀ diagnostic ∈ diagnostics, diagnostic.column < 9223372036854775808) →
          ∀ filepath, let report := Report.make grammars.limits filepath source result.records
            report.fault = Diagnostic.digitFault? grammars.limits diagnostics ∧
            report.blocks = (Diagnostic.shown grammars.limits diagnostics).map
              (Diagnostic.block filepath (Text.lines source))) := by
  refine ⟨fun converted => ?_, fun index converted => ?_, fun _ => rfl,
    fun type => ⟨Value.shownText_isOk_iff, fun _ => Value.mem_faults_of_shownText⟩,
    fun _ _ => Record.load_fault, fun dialect result given => ?_⟩
  · rw [Grammars.check_name]
    exact ModernOutcome.converted_iff
  · rw [Grammars.check_name]
    exact ClassicOutcome.converted_iff index
  · have sound := Grammars.check_isSound given
    rw [Grammars.check_name] at given
    obtain ⟨stopped, one⟩ : (result.verdict.isStopped = true ↔
        grammars.Raises source setting dialect) ∧
          (grammars.Raises source setting dialect → result.records.length = 1) := by
      cases dialect with
      | modern => exact ModernOutcome.stopped_iff given
      | classic => exact ClassicOutcome.stopped_iff given
    refine ⟨stopped, one, ?_, Report.blocks_of_isSound sound grammars.limits source⟩
    rw [← stopped]
    simp [Report.verdict, Result.failed]

/-- Of two tolerated errors that are no records, the first one escapes. A breakdown that leaves
nothing behind is put at the start. -/
theorem first_bad_error_escapes :
    let bad : ErrorObject := .mapping [("lineNumber", .int 0)]
    let grammars : Grammars :=
      { limits := .usual
        modern := fun _ _ => .tree (.text "Program") (some [bad, .plain .null])
        classic := fun _ => ⟨.broken ⟨"IndexError", "odd", []⟩, none, .null, .null⟩ }
    (grammars.check [] {} Dialect.modern.name).outcome =
      .error (.badRecord (.notPositive .line "0")) ∧
    ((grammars.classic []).index.integer?.isSome ∨ (grammars.classic []).index.isEmpty) ∧
    (grammars.check [] {} Dialect.classic.name).outcome =
      .ok ⟨.stopped, [.ofPlace 1 1 "IndexError: odd"]⟩ := by
  intro bad grammars
  obtain ⟨modern, classic, -⟩ := outcomes_converted grammars [] {}
  have index : (grammars.classic []).index.integer?.isSome ∨ (grammars.classic []).index.isEmpty :=
    .inr rfl
  refine ⟨(modern _).1 ?_, index, (classic index _).1 ?_⟩
  · exact .badError rfl (fun _ listed => absurd listed List.not_mem_nil) rfl
  · have fails : (grammars.classic []).ending = .broken ⟨"IndexError", "odd", []⟩ := rfl
    have isNumber : ((grammars.classic []).remains .null).offset.integer? = some 0 := rfl
    exact .failed (.inr fails) isNumber

end ScriptCheck
