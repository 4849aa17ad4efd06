import ScriptCheck.Proofs.Answer
import ScriptCheck.Proofs.Spelling

/-!
# A call is a run of the library

Who calls the program gets what a check, a dump and a report on the decoded file give. `Checks` says
which calls check a file; every setting has such a call, as `parse_spelled` shows. What the call
prints, how it ends and what it leaves in the tree follows from the result of the check alone:
`call_runs_library`.
-/

namespace ScriptCheck

variable {limits : Limits}

/-- What is shown of a diagnostic: the warning that its line is missing, if it is, and its block. -/
def Diagnostic.shownText (limits : Limits) (filepath : String) (lines : List (List Char))
    (diagnostic : Diagnostic) : List Char :=
  ((Report.warnings filepath lines diagnostic.line).flatMap fun event =>
    (event.logLine limits).toList) ++ diagnostic.block filepath lines

namespace CommandLine

open ScriptCheck.Files

section Spelling

/-- Arguments that ask for a check. The file stands behind a separator, so it may have any name. -/
def spelled (file : String) (dialect : Dialect) (isModule strict : Bool) (dump : Option String) :
    List String :=
  ["--parser", dialect.name] ++ (if isModule then ["--module"] else []) ++
    (if strict then ["--strict"] else []) ++ (dump.map ("--dump=" ++ ·)).toList ++
    [Word.separatorText, file]

/-- A path behind an equals sign is the value of its option. -/
theorem means_dump (path : String) : Means ("--dump=" ++ path) (.long .dump (some path)) := by
  have isName : IsLongName .dump "--dump" := ⟨by decide, "--dump", by decide, List.prefix_rfl⟩
  have joined : "--dump" ++ "=" = "--dump=" := by decide
  exact joined ▸ means_attached isName path

/-- An option that may be left out. -/
theorem forall₂_means_if {argument : String} {word : Word} (isGiven : Bool)
    (means : Means argument word) :
    List.Forall₂ Means (if isGiven then [argument] else []) (if isGiven then [word] else []) := by
  cases isGiven with
  | false => exact .nil
  | true => exact .cons means .nil

/-- Every setting can be asked for, with any file and any path but the separator for the dump. -/
theorem parse_spelled (file : String) (dialect : Dialect) (isModule strict : Bool)
    {dump : Option String} (named : dump ≠ some Word.separatorText) :
    parse (spelled file dialect isModule strict dump) = .ok (.check
      ⟨file, .text dialect.name, isModule, strict, dump.map .text, false⟩) := by
  have classified : Word.classifyAll (spelled file dialect isModule strict dump) = .ok
      ([.long .dialect none, .operand dialect.name] ++
        (if isModule then [.long .asModule none] else []) ++
        (if strict then [.long .strict none] else []) ++
        (dump.map fun path => .long .dump (some path)).toList ++ [.separator, .operand file]) := by
    refine classifyAll_append ?_ rfl
    refine List.rel_append (List.rel_append (List.rel_append ?_ ?_) ?_) ?_
    · cases dialect <;> exact .cons ⟨by decide, by decide⟩ (.cons ⟨by decide, by decide⟩ .nil)
    · exact forall₂_means_if _ ⟨by decide, by decide⟩
    · exact forall₂_means_if _ ⟨by decide, by decide⟩
    · cases dump with
      | none => exact .nil
      | some path => exact .cons (means_dump path) .nil
  have attached (path : String) (isDump : dump = some path) : attachedValue path = .text path :=
    if_neg fun same => named (isDump.trans (congrArg some same))
  unfold parse
  rw [classified]
  cases isModule <;> cases strict <;> cases dump <;>
    simp [scan, scan.option, OptionName.takesValue, flags, Given.withFlags, Given.withValue,
      Given.request, bind, Except.bind, attached]

end Spelling

section Shown

/-- The lines of the warnings among events. -/
def warningText (limits : Limits) (events : List Event) : List Char :=
  (events.filter fun event => event.level == .warning).flatMap fun event =>
    (event.logLine limits).toList

/-- A call that is not verbose shows of its events the warnings. -/
theorem logText_quiet (events : List Event) :
    logText limits false events = warningText limits events := rfl

/-- A call shows a report on diagnostics one by one, each block behind its warning. -/
theorem reportText_items (filepath : String) (lines : List (List Char))
    (diagnostics : List Diagnostic) :
    reportText limits false (diagnostics.flatMap (Diagnostic.items filepath lines)) =
      diagnostics.flatMap (Diagnostic.shownText limits filepath lines) := by
  unfold reportText
  rw [List.flatMap_assoc]
  refine congrArg (List.flatMap · diagnostics) (funext fun diagnostic => ?_)
  unfold Diagnostic.items Diagnostic.shownText Report.warnings
  split
  next => simp [logText, isShown, Event.level]
  next => simp

end Shown

/-- A call fails if its check stopped or met anything. -/
theorem verdict_code (result : Result) :
    (Report.verdict result).code =
      if result.verdict.isStopped = true ∨ result.records ≠ [] then 1 else 0 := by
  unfold Report.verdict Result.failed
  by_cases stopped : result.verdict.isStopped = true
  · simp [stopped, Signal.code]
  · cases result.records with
    | nil => simp [stopped, Signal.code]
    | cons record records => simp [Signal.code]

/-- What a call that is not verbose shows of diagnostics that can be shown, and how it ends. -/
theorem reported_of_fit {invocation : Invocation} (quiet : invocation.verbose = false)
    {result : Result} {diagnostics : List Diagnostic}
    (records : diagnostics.map Diagnostic.record = result.records)
    (fit : ∀ diagnostic ∈ diagnostics, diagnostic.Fits limits) (source before : List Char) :
    Report.make limits invocation.file source result.records =
        ⟨diagnostics.flatMap (Diagnostic.items invocation.file (Text.lines source)), none⟩ ∧
      reported limits invocation source result before =
        { stderr := before ++ diagnostics.flatMap
            (Diagnostic.shownText limits invocation.file (Text.lines source))
          ending :=
            .ok (if result.verdict.isStopped = true ∨ result.records ≠ [] then 1 else 0) } := by
  have report : Report.make limits invocation.file source result.records =
      ⟨diagnostics.flatMap (Diagnostic.items invocation.file (Text.lines source)), none⟩ := by
    rw [Report.make, ← records]
    exact Report.ofLines_of_fits _ _ fit
  refine ⟨report, ?_⟩
  rw [reported, report, quiet, ← verdict_code, ← reportText_items]

/-- With the grammars of this library, every diagnostic of a result can be shown. The source must
not be longer than a count can be. -/
theorem standard_fit {source : List Char} {setting : Setting} {dialect : Dialect}
    {result : Result} {diagnostics : List Diagnostic}
    (given : ((Grammars.standard limits).check source setting dialect.name).outcome = .ok result)
    (records : diagnostics.map Diagnostic.record = result.records)
    (countable : source.length + 2 < 9223372036854775808) :
    ∀ diagnostic ∈ diagnostics, diagnostic.Fits limits := by
  rw [Grammars.check_name] at given
  obtain ⟨answer, answered, near⟩ | ⟨problem, -, -, refused⟩ :=
    standard_answers limits source setting dialect
  · cases given.symm.trans answered
    exact near.fit countable records
  · cases given.symm.trans refused

/-- A call that is not verbose does what the library does with the decoded file, whatever the
grammars are. It prints nothing but the warnings of the check and then, for each record of the
result, the warning that its line is missing and its block. It fails if the check stopped or met
anything. A dump that is asked for tells of the same records in the same order, and nothing else in
the tree changes; if it cannot be made, its file is left empty and the call ends with what is wrong.
Results of the grammars of this library can be shown and dumped on every machine. -/
theorem call_runs_library (grammars : Grammars) {tree : Tree} {arguments : List String}
    {invocation : Invocation} {dialect : Dialect} {octets : List UInt8}
    (checks : Checks tree arguments invocation dialect octets) (quiet : invocation.verbose = false)
    {result : Result}
    (given : (grammars.check (Text.unifyLineEnds (Text.Utf8.decode octets))
      { tolerant := !invocation.strict, isModule := invocation.isModule } dialect.name).outcome =
        .ok result) :
    let source := Text.unifyLineEnds (Text.Utf8.decode octets)
    let checked := grammars.check source
      { tolerant := !invocation.strict, isModule := invocation.isModule } dialect.name
    let ran := (run Tree.access grammars arguments).run tree
    ∃ diagnostics : List Diagnostic, diagnostics.map Diagnostic.record = result.records ∧
      ran.1.stdout = [] ∧
      (∀ path, invocation.dump = some (.text path) →
        (match Dump.text grammars.limits invocation.file
            (diagnostics.map Diagnostic.record) with
          | .ok text => ran.2.read path = .ok (Text.Utf8.encode text)
          | .error fault => ran.2.read path = .ok [] ∧ ran.1.ending = .error fault ∧
              ran.1.stderr = warningText grammars.limits checked.events) ∧
        ∃ location, tree.target path = .ok location ∧
          ∀ other, other ≠ location → ran.2.files.lookup other = tree.files.lookup other) ∧
      ((∀ path, invocation.dump ≠ some (.text path)) → ran.2 = tree) ∧
      ((∀ diagnostic ∈ diagnostics, diagnostic.Fits grammars.limits) →
        (∃ text, Dump.text grammars.limits invocation.file
          (diagnostics.map Diagnostic.record) = .ok text) ∧
        Report.make grammars.limits invocation.file source result.records =
          ⟨diagnostics.flatMap (Diagnostic.items invocation.file (Text.lines source)), none⟩ ∧
        ran.1.stderr = warningText grammars.limits checked.events ++ diagnostics.flatMap
          (Diagnostic.shownText grammars.limits invocation.file (Text.lines source)) ∧
        ran.1.ending =
          .ok (if result.verdict.isStopped = true ∨ result.records ≠ [] then 1 else 0)) ∧
      (∀ limits, grammars = .standard limits → source.length + 2 < 9223372036854775808 →
        ∀ diagnostic ∈ diagnostics, diagnostic.Fits grammars.limits) := by
  intro source checked ran
  obtain ⟨diagnostics, records⟩ := Record.exists_diagnostics (Grammars.check_isSound given)
  have checked_eq : checked = grammars.checkWith (sourceOf octets) invocation.setting dialect :=
    Grammars.check_name dialect
  have answered : (grammars.checkWith (sourceOf octets) invocation.setting dialect).outcome =
      .ok result := by
    rw [← checked_eq]
    exact given
  have log : logText grammars.limits invocation.verbose
        (grammars.checkWith (sourceOf octets) invocation.setting dialect).events ++
      logText grammars.limits invocation.verbose [.finished invocation.file result.records.length
        result.verdict.isStopped] = warningText grammars.limits checked.events := by
    rw [quiet, checked_eq, logText_quiet]
    exact List.append_nil _
  have course := run_of_result checks answered
  simp only [log] at course
  have standard : ∀ limits, grammars = .standard limits →
      source.length + 2 < 9223372036854775808 →
      ∀ diagnostic ∈ diagnostics, diagnostic.Fits grammars.limits := by
    rintro limits rfl countable
    exact standard_fit given records countable
  rcases course with ⟨after, ran_eq, dumped⟩ | ⟨path, location, fault, dump, target, unmade, ran_eq⟩
  · replace ran_eq : ran = _ := ran_eq
    refine ⟨diagnostics, records, by rw [ran_eq]; rfl, fun path dump => ?_,
      fun noDump => by rw [ran_eq]; exact dumped.unchanged noDump, fun fit => ?_, standard⟩
    · obtain ⟨location, text, target, made, written, others⟩ := dumped.changes dump
      rw [records, made, ran_eq]
      exact ⟨written, location, target, others⟩
    · obtain ⟨report, shown⟩ := reported_of_fit quiet records fit (sourceOf octets)
        (warningText grammars.limits checked.events)
      rw [ran_eq, shown]
      exact ⟨Dump.exists_text fit _, report, rfl, rfl⟩
  · replace ran_eq : ran = _ := ran_eq
    refine ⟨diagnostics, records, by rw [ran_eq], fun other otherDump => ?_,
      fun noDump => absurd dump (noDump path), fun fit => ?_, standard⟩
    · cases dump.symm.trans otherDump
      rw [records, unmade, ran_eq]
      exact ⟨⟨Tree.read_put target _, rfl, rfl⟩, location, target,
        fun _ apart => Tree.lookup_put_of_ne _ apart⟩
    · obtain ⟨text, made⟩ := Dump.exists_text fit invocation.file
      rw [records] at made
      cases made.symm.trans unmade

/-- A call about a file with a brace that closes nothing fails. It leaves a dump behind and warns
that modules are unknown before it shows the brace. -/
theorem closing_brace_call :
    let tree : Tree := ⟨[(["a.js"], [125])]⟩
    let arguments := spelled "a.js" .classic true true (some "a.yaml")
    let invocation : Invocation :=
      ⟨"a.js", .text Dialect.classic.name, true, true, some (.text "a.yaml"), false⟩
    let diagnostic : Diagnostic :=
      ⟨1, 1, "IndexError: list index out of range", by decide, by decide⟩
    let ran := (run Tree.access (.standard .usual) arguments).run tree
    Checks tree arguments invocation .classic [125] ∧
    ((Grammars.standard .usual).check ['\x7d'] { tolerant := false, isModule := true }
      Dialect.classic.name).outcome = .ok ⟨.stopped, [diagnostic.record]⟩ ∧
    ran.1.stdout = [] ∧
    ran.1.stderr = (Event.moduleIgnored.logLine .usual).toList ++
      diagnostic.shownText .usual "a.js" [['\x7d']] ∧
    ran.1.ending = .ok 1 ∧
    ∃ text, Dump.text .usual "a.js" [diagnostic.record] = .ok text ∧
      ran.2.read "a.yaml" = .ok (Text.Utf8.encode text) := by
  intro tree arguments invocation diagnostic ran
  have readable : Tree.read ⟨[(["a.js"], [125])]⟩ "a.js" = .ok [125] := rfl
  have target : Tree.target ⟨[(["a.js"], [125])]⟩ "a.yaml" = .ok ["a.yaml"] := rfl
  have checks : Checks tree arguments invocation .classic [125] := {
    parsed := parse_spelled "a.js" .classic true true (by decide)
    dialect_eq := rfl
    isPath := by decide
    readable := readable
    writable := .inr ⟨"a.yaml", rfl, by decide, ["a.yaml"], target⟩ }
  have given : ((Grammars.standard .usual).check ['\x7d'] { tolerant := false, isModule := true }
      Dialect.classic.name).outcome = .ok ⟨.stopped, [diagnostic.record]⟩ := rfl
  obtain ⟨diagnostics, records, stdout, dumped, -, shown, fit⟩ :=
    call_runs_library (.standard .usual) checks rfl given
  obtain ⟨⟨text, made⟩, -, stderr, ending⟩ := shown (fit .usual rfl (by decide))
  have records : diagnostics.map Diagnostic.record = [diagnostic].map Diagnostic.record := records
  obtain rfl : diagnostics = [diagnostic] :=
    (List.map_inj_right fun _ _ same => Diagnostic.record_injective same).1 records
  have written := (dumped "a.yaml" rfl).1
  rw [made] at written
  refine ⟨checks, given, stdout, ?_, ending, text, made, written⟩
  rw [stderr, List.flatMap_singleton]
  rfl

end CommandLine

end ScriptCheck
