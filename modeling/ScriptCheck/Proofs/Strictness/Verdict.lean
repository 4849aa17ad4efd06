import ScriptCheck.Modern.Program
import ScriptCheck.Proofs.AddedOption
import ScriptCheck.Proofs.CallCourse
import ScriptCheck.Proofs.Conversion
import ScriptCheck.Proofs.Strictness.Statement

/-!
# Strictness keeps the verdict

All readers are in step, at every depth of nesting, so a strict run of a source meets no problem
exactly if a tolerant run logs none and comes to the end. A check, and a call that checks a file,
therefore passes or fails no matter how strict it is: `strictness_keeps_verdict`.
-/

namespace ScriptCheck

open Grammar

namespace Modern

/-- Readers are in step at every depth. -/
instance areInStep_phrases (depth : Nat) : (phrases depth).AreInStep := by
  induction depth with
  | zero =>
      exact ⟨.throw _, .throw _, .throw _, .throw _, .throw _, fun _ => .throw _, .throw _,
        .throw _⟩
  | succ depth inductionHypothesis =>
      exact ⟨inStep_assignment, inStep_unary, inStep_power, inStep_memberExpression,
        inStep_callExpression, fun _ => inStep_target, inStep_statement, inStep_item⟩

instance inStep_program (limits : Limits) (isModule : Bool) : InStep (program limits isModule) := by
  refine inStep_skipToken.andThen fun _ => .andThen ?_ fun _ => .optional ?_ inferInstance
  · exact .change _ (fun _ => rfl) fun _ => ⟨rfl, rfl⟩
  · exact .change _ (fun _ => rfl) fun _ => ⟨rfl, rfl⟩

variable {limits : Limits}

/-- A strict run comes to the end exactly if a tolerant one does and logs nothing. -/
theorem runStrictly_ok_iff (source : Array Char) (isModule : Bool) :
    runStrictly limits source isModule = .ok () ↔ run limits source isModule = (.ok (), []) := by
  have agree := (inStep_program limits isModule).agree (.initial limits source) rfl
  have strictly : State.initial limits source false = (State.initial limits source).strictly := rfl
  unfold runStrictly run
  rw [strictly]
  generalize program limits isModule (.initial limits source) = ran,
    program limits isModule (State.initial limits source).strictly = strictRan at agree
  cases agree with
  | @alike _ after _ same =>
      have nothing : after.tolerated = [] := same
      simp [nothing]
  | @logged _ after _ _ _ more =>
      have something : after.tolerated ≠ [] := List.ne_nil_of_length_pos (Nat.zero_lt_of_lt more)
      simp [something]
  | failed => simp

/-- A run that fails gives a result that is stopped, with one record, if it gives any. -/
theorem Failure.result_stopped {failure : Failure} {result : Result}
    (given : ((failure.outcome limits).result limits).outcome = .ok result) :
    ∃ record, result = .failure record := by
  cases failure <;> cases ModernOutcome.converted_iff.2 given <;> exact ⟨_, rfl⟩

/-- A run that comes to the end gives a result that is completed, with a record for each problem
that it logged, if it gives any. -/
theorem completed_result {problems : List Problem} {result : Result}
    (given : ((completed problems).result limits).outcome = .ok result) :
    result.verdict = .completed ∧ result.records.length = problems.length := by
  cases ModernOutcome.converted_iff.2 given with
  | program loaded => exact ⟨rfl, by simpa using loaded.length_eq.symm⟩

/-- A check has nothing to complain about exactly if its run comes to the end and logs nothing. -/
theorem outcome_success_iff (source : List Char) (tolerant isModule : Bool) :
    ((outcome limits source tolerant isModule).result limits).outcome = .ok (.success []) ↔
      run limits source.toArray isModule = (.ok (), []) := by
  have passes : ((completed []).result limits).outcome = .ok (.success []) := rfl
  have stops (failure : Failure) :
      ((failure.outcome limits).result limits).outcome ≠ .ok (.success []) := by
    intro given
    obtain ⟨record, stopped⟩ := Failure.result_stopped given
    cases stopped
  unfold outcome
  cases tolerant with
  | true =>
      rcases run limits source.toArray isModule with ⟨failure | _, problems⟩
      · simp [stops]
      · refine ⟨fun given => ?_, fun quiet => ?_⟩
        · obtain ⟨-, counted⟩ := completed_result given
          rw [List.eq_nil_of_length_eq_zero counted.symm]
        · cases quiet
          exact passes
  | false =>
      rw [← runStrictly_ok_iff]
      rcases runStrictly limits source.toArray isModule with failure | _
      · simp [stops]
      · simp [passes]

/-- A strict check has a result with nothing in it, or is stopped by one record. -/
theorem strict_result {source : List Char} {isModule : Bool} {result : Result}
    (given : ((outcome limits source false isModule).result limits).outcome = .ok result) :
    result = .success [] ∨ ∃ record, result = .failure record := by
  unfold outcome at given
  rw [if_neg Bool.false_ne_true] at given
  split at given
  next =>
    cases given
    exact .inl rfl
  next failure _ => exact .inr (Failure.result_stopped given)

end Modern

namespace CommandLine

open Files

section Asking

/-- What is given, and that the check be strict. -/
def Given.strictly (given : Given) : Given := { given with strict := true }

/-- The same check, but strict. -/
def Invocation.strictly (invocation : Invocation) : Invocation := { invocation with strict := true }

/-- The same request, but for a strict check. -/
def Request.strictly : Request → Request
  | .help => .help
  | .check invocation => .check invocation.strictly

/-- Arguments leave it standing that a check be strict. -/
theorem Given.stands_strictly : Given.Stands Given.strictly := {}

/-- The request is the same but for a strict check. -/
theorem Given.request_strictly (given : Given) :
    given.strictly.request = given.request.map Request.strictly := by
  unfold request strictly
  cases given.file with
  | none => rfl
  | some file =>
      dsimp only
      cases given.extra.isEmpty <;> rfl

/-- To ask for a strict check in front of other arguments makes their check strict. -/
theorem parse_strict (arguments : List String) :
    parse ("--strict" :: arguments) = (parse arguments).map Request.strictly := by
  have acts (words : List Word) : scan {} .nothing (.long .strict none :: words) =
      scan (Given.strictly {}) .nothing words := by
    rw [scan_long, scan.option]
    rfl
  exact parse_cons Given.stands_strictly ⟨by decide, by decide⟩ acts rfl Given.request_strictly _

end Asking

section Calls

/-- How a call that asks for a check ends, if no fault escapes: it is refused because of its paths,
or its verdict is that of the result. -/
theorem Course.code_cases {grammars : Grammars} {tree after : Tree} {arguments : List String}
    {ended : Ended} (course : Course grammars tree arguments ended after) {invocation : Invocation}
    (parsed : parse arguments = .ok (.check invocation)) {code : Nat}
    (ending : ended.ending = .ok code) :
    (code = 2 ∧ ∃ problem, tree.read invocation.file = .error problem) ∨
    ∃ octets result, tree.read invocation.file = .ok octets ∧
      (invocation.check grammars (sourceOf octets)).outcome = .ok result ∧
      ((code = 2 ∧ ∃ path problem, invocation.dump = some (.text path) ∧
        tree.target path = .error problem) ∨
      (code = (Report.verdict result).code ∧ ∀ path, invocation.dump = some (.text path) →
        ∃ location, tree.target path = .ok location)) := by
  cases course with
  | misused misused => cases parsed.symm.trans misused
  | helped helped => cases parsed.symm.trans helped
  | noPath => cases ending
  | unreadable asked unreadable =>
      cases parsed.symm.trans asked
      cases ending
      exact .inl ⟨rfl, _, unreadable⟩
  | unchecked => cases ending
  | undumped reads checked undumped =>
      cases parsed.symm.trans reads.parsed
      cases undumped with
      | nameless => cases ending
      | noPath => cases ending
      | unwritable dump unwritable =>
          cases ending
          exact .inr ⟨_, _, reads.readable, checked, .inl ⟨rfl, _, _, dump, unwritable⟩⟩
      | unmade => cases ending
  | reported reads checked dumped =>
      cases parsed.symm.trans reads.parsed
      refine .inr ⟨_, _, reads.readable, checked, .inr ⟨?_, fun path dump => ?_⟩⟩
      · unfold CommandLine.reported at ending
        dsimp only at ending
        split at ending
        · cases ending
        · cases ending
          rfl
      · obtain ⟨location, text, target, -⟩ := dumped.changes dump
        exact ⟨location, target⟩

/-- A check comes to the end or is stopped. -/
theorem check_verdict {grammars : Grammars} {source : List Char} {setting : Setting}
    {dialect : Dialect} {result : Result}
    (given : (grammars.checkWith source setting dialect).outcome = .ok result) :
    result.verdict = .completed ∨ result.verdict = .stopped := by
  cases dialect with
  | modern =>
      have converted := ModernOutcome.converted_iff.2 given
      generalize grammars.modern source setting = outcome at converted
      cases converted <;> simp
  | classic =>
      replace given : ((grammars.classic source).result grammars.limits source).outcome =
        .ok result := given
      unfold ClassicOutcome.result at given
      split at given
      all_goals
        obtain ⟨_, -, rfl⟩ := map_eq_ok.1 given
        simp [Result.success, Result.failure]

/-- A check that came to an end passes if it met nothing. -/
theorem verdict_eq_success_iff {result : Result}
    (ends : result.verdict = .completed ∨ result.verdict = .stopped) :
    Report.verdict result = .success ↔ result = .success [] := by
  obtain ⟨verdict, records⟩ := result
  rcases ends with rfl | rfl <;>
    cases records <;>
      simp [Report.verdict, Result.failed, Verdict.isStopped, Result.success]

/-- Results of which both have something in them, or neither, have the same verdict. -/
theorem verdict_eq {grammars : Grammars} {source : List Char} {setting other : Setting}
    {dialect : Dialect} {result otherResult : Result}
    (given : (grammars.checkWith source setting dialect).outcome = .ok result)
    (otherGiven : (grammars.checkWith source other dialect).outcome = .ok otherResult)
    (same : result = .success [] ↔ otherResult = .success []) :
    Report.verdict result = Report.verdict otherResult := by
  have passes := verdict_eq_success_iff (check_verdict given)
  have otherPasses := verdict_eq_success_iff (check_verdict otherGiven)
  cases verdict : Report.verdict result with
  | success => exact (otherPasses.2 (same.1 (passes.1 verdict))).symm
  | failure =>
      cases otherVerdict : Report.verdict otherResult with
      | success => cases verdict.symm.trans (passes.2 (same.2 (otherPasses.1 otherVerdict)))
      | failure => rfl

/-- With the grammars of this library, a strict check has nothing to complain about exactly if a
tolerant one has not. -/
theorem checkWith_success_iff (limits : Limits) (source : List Char)
    (isModule tolerant other : Bool) (dialect : Dialect) :
    ((Grammars.standard limits).checkWith source ⟨tolerant, isModule⟩ dialect).outcome =
        .ok (.success []) ↔
      ((Grammars.standard limits).checkWith source ⟨other, isModule⟩ dialect).outcome =
        .ok (.success []) := by
  cases dialect with
  | modern =>
      exact (Modern.outcome_success_iff source tolerant isModule).trans
        (Modern.outcome_success_iff source other isModule).symm
  | classic => exact Iff.rfl

variable {limits : Limits}

/-- The checks of a call and of the same call for a strict check have the same verdict. -/
theorem verdict_strictly {invocation : Invocation} {source : List Char}
    {result strictResult : Result}
    (checked : (invocation.check (.standard limits) source).outcome = .ok result)
    (strictChecked : (invocation.strictly.check (.standard limits) source).outcome =
      .ok strictResult) :
    Report.verdict strictResult = Report.verdict result := by
  have sameDialect : invocation.strictly.dialect = invocation.dialect := rfl
  unfold Invocation.check at checked strictChecked
  rw [sameDialect] at strictChecked
  cases isName : invocation.dialect with
  | nothing =>
      rw [isName] at checked
      cases checked
  | text name =>
      rw [isName] at checked strictChecked
      dsimp only at checked strictChecked
      unfold Grammars.check at checked strictChecked
      cases isDialect : Dialect.ofName? name with
      | none =>
          rw [isDialect] at checked
          cases checked
      | some dialect =>
          rw [isDialect] at checked strictChecked
          have passes := checkWith_success_iff limits source invocation.isModule false
            (!invocation.strict) dialect
          refine verdict_eq strictChecked checked ⟨fun empty => ?_, fun empty => ?_⟩
          · exact Except.ok.inj (checked.symm.trans (passes.1 (empty ▸ strictChecked)))
          · exact Except.ok.inj (strictChecked.symm.trans (passes.2 (empty ▸ checked)))

/-- A call and the same call for a strict check end with the same code, if no fault escapes. -/
theorem code_strictly {tree : Tree} {arguments strictArguments : List String}
    {invocation : Invocation} (parsed : parse arguments = .ok (.check invocation))
    (strictParsed : parse strictArguments = .ok (.check invocation.strictly))
    {code strictCode : Nat}
    (ending : ((run Tree.access (.standard limits) arguments).run tree).1.ending = .ok code)
    (strictEnding : ((run Tree.access (.standard limits) strictArguments).run tree).1.ending =
      .ok strictCode) : strictCode = code := by
  have course := (run_course (.standard limits) tree arguments).code_cases parsed ending
  have strictCourse :=
    (run_course (.standard limits) tree strictArguments).code_cases strictParsed strictEnding
  rcases course with ⟨rfl, problem, unread⟩ | ⟨octets, result, read, checked, dump⟩
  · rcases strictCourse with ⟨rfl, -⟩ | ⟨octets, -, read, -⟩
    · rfl
    · cases unread.symm.trans read
  · rcases strictCourse with ⟨rfl, problem, unread⟩ |
      ⟨_, strictResult, strictRead, strictChecked, strictDump⟩
    · cases read.symm.trans unread
    · cases read.symm.trans strictRead
      rcases dump with ⟨rfl, path, problem, isDump, unwritable⟩ | ⟨rfl, writable⟩
      · rcases strictDump with ⟨rfl, -⟩ | ⟨-, strictWritable⟩
        · rfl
        · obtain ⟨location, target⟩ := strictWritable path isDump
          cases unwritable.symm.trans target
      · rcases strictDump with ⟨rfl, path, problem, isDump, unwritable⟩ | ⟨rfl, -⟩
        · obtain ⟨location, target⟩ := writable path isDump
          cases unwritable.symm.trans target
        · exact congrArg Signal.code (verdict_strictly checked strictChecked)

end Calls

end CommandLine

open CommandLine Files

/-- Strictness never changes a verdict. With the modern grammar a tolerant check has nothing to
complain about exactly if a strict one has not. A strict check comes to the end with nothing to
complain about, or is stopped by one record. With the classic grammar the outcome is the same for
all settings. A call and the same call for a strict check end with the same code unless a fault
escapes; such a call is made by asking for a strict check in front of the other arguments. All this
holds on every machine. -/
theorem strictness_keeps_verdict (limits : Limits) :
    (∀ (source : List Char) (isModule : Bool),
      ((Grammars.standard limits).check source ⟨true, isModule⟩ Dialect.modern.name).outcome =
        .ok (.success []) ↔
      ((Grammars.standard limits).check source ⟨false, isModule⟩ Dialect.modern.name).outcome =
        .ok (.success [])) ∧
    (∀ (source : List Char) (isModule : Bool) (result : Result),
      ((Grammars.standard limits).check source ⟨false, isModule⟩ Dialect.modern.name).outcome =
        .ok result →
      result = .success [] ∨ ∃ record, result = .failure record) ∧
    (∀ (source : List Char) (setting other : Setting),
      ((Grammars.standard limits).check source setting Dialect.classic.name).outcome =
        ((Grammars.standard limits).check source other Dialect.classic.name).outcome) ∧
    (∀ (tree : Tree) (arguments strictArguments : List String) (invocation : Invocation)
        (code strictCode : Nat),
      parse arguments = .ok (.check invocation) →
      parse strictArguments = .ok (.check { invocation with strict := true }) →
      ((run Tree.access (.standard limits) arguments).run tree).1.ending = .ok code →
      ((run Tree.access (.standard limits) strictArguments).run tree).1.ending = .ok strictCode →
      strictCode = code) ∧
    (∀ (arguments : List String) (invocation : Invocation),
      parse arguments = .ok (.check invocation) →
      parse ("--strict" :: arguments) = .ok (.check { invocation with strict := true })) := by
  refine ⟨fun source isModule => ?_, fun source isModule result given => ?_,
    fun source setting other => ?_, fun tree arguments strictArguments invocation code strictCode
      parsed strictParsed ending strictEnding => ?_, fun arguments invocation parsed => ?_⟩
  · rw [Grammars.check_name, Grammars.check_name]
    exact checkWith_success_iff limits source isModule true false .modern
  · rw [Grammars.check_name] at given
    exact Modern.strict_result given
  · rw [Grammars.check_name, Grammars.check_name]
    rfl
  · exact code_strictly parsed strictParsed ending strictEnding
  · rw [parse_strict, parsed]
    rfl

/-- A call about a file that opens a bracket at its end fails. So it does if a strict check is asked
for, unless a fault escapes. -/
theorem open_bracket_fails_strictly :
    let tree : Tree := ⟨[(["a.js"], [40])]⟩
    ((run Tree.access (.standard .usual) ["a.js"]).run tree).1.ending = .ok 1 ∧
      ∀ code,
        ((run Tree.access (.standard .usual) ["--strict", "a.js"]).run tree).1.ending = .ok code →
        code = 1 := by
  intro tree
  obtain ⟨-, -, -, sameCode, asks⟩ := strictness_keeps_verdict .usual
  have classified : Word.classifyAll ["a.js"] = .ok [.operand "a.js"] := rfl
  have checks : Checks tree ["a.js"] ⟨"a.js", .text Dialect.modern.name, false, false, none, false⟩
      .modern [40] := {
    parsed := by simp [parse, classified, scan, Given.request, bind, Except.bind]
    dialect_eq := rfl
    isPath := rfl
    readable := rfl
    writable := .inl rfl }
  have given : ((Grammars.standard .usual).check ['('] {} Dialect.modern.name).outcome =
      .ok (.failure (.ofPlace 1 2 "Error: Line 1: Unexpected end of input")) := rfl
  have answered : ((Grammars.standard .usual).checkWith ['('] {} .modern).outcome =
      .ok (.failure (.ofPlace 1 2 "Error: Line 1: Unexpected end of input")) := given
  have ending : ((run Tree.access (.standard .usual) ["a.js"]).run tree).1.ending = .ok 1 := by
    rw [run_checks checks (.standard .usual) fun result found => by
      cases answered.symm.trans found
      obtain ⟨diagnostics, records⟩ := Record.exists_diagnostics (Grammars.check_isSound given)
      exact ⟨diagnostics, records, standard_fit given records (by decide)⟩]
    exact congrArg (Except.map fun result => (Report.verdict result).code) answered
  exact ⟨ending, fun code strictEnding =>
    sameCode tree _ _ _ 1 code checks.parsed (asks _ _ checks.parsed) ending strictEnding⟩

end ScriptCheck
