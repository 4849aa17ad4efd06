import ScriptCheck.CommandLine.Run
import ScriptCheck.Proofs.Dumping
import ScriptCheck.Proofs.FailurePlace
import ScriptCheck.Proofs.FileTree
import ScriptCheck.Proofs.Places.Handed

/-!
# Answers

With the grammars of this library, a check has a result for every source, unless the modern grammar
hands over a problem with a column below one. A call that checks a file then ends with zero or one,
or with the fault about that column. The places of a result lie close to the source, so their
numbers are written under all limits.
-/

namespace ScriptCheck

variable {limits : Limits}

/-- A record whose place is not far behind a source. -/
structure Record.Near (source : List Char) (record : Record) : Prop where
  line_le : ∀ line, record.line = .int line → line ≤ source.length + 2
  column_le : ∀ column, record.column = .int column → column ≤ source.length + 2

/-- A record of a place near a source. -/
theorem Record.ofPlace_near {source : List Char} {line column : Int}
    (line_le : line ≤ source.length + 2) (column_le : column ≤ source.length + 2)
    (message : String) : (ofPlace line column message).Near source where
  line_le _ isLine := Value.int.inj isLine ▸ line_le
  column_le _ isColumn := Value.int.inj isColumn ▸ column_le

/-- A result none of whose places is far behind a source. -/
def Result.Near (source : List Char) (result : Result) : Prop :=
  ∀ record ∈ result.records, record.Near source

namespace Classic

/-- A run of the classic grammar hands out a program, or fails in one of two ways. It always leaves
the offset behind that it had read up to. -/
theorem outcome_cases (limits : Limits) (source : List Char) :
    (outcome limits source).index.integer?.isSome ∧
      ((outcome limits source).ending = .tree (.text "Program") ∨
        ∃ raised, (outcome limits source).ending = .refused raised ∨
          (outcome limits source).ending = .broken raised) := by
  unfold outcome
  split
  next => exact ⟨rfl, .inl rfl⟩
  next failure state ended =>
    refine ⟨rfl, .inr ?_⟩
    cases failure with
    | complaint line offset found => exact ⟨_, .inl rfl⟩
    | _ => exact ⟨_, .inr rfl⟩

end Classic

/-- Every source has a result with the classic grammar. -/
theorem classic_answers (limits : Limits) (source : List Char) (setting : Setting) :
    ∃ result, ((Grammars.standard limits).checkWith source setting .classic).outcome = .ok result ∧
      result.Near source := by
  obtain ⟨index, tree | ⟨raised, fails⟩⟩ := Classic.outcome_cases limits source
  · refine ⟨.success [], ?_, fun _ listed => nomatch listed⟩
    show ((Classic.outcome limits source).result limits source).outcome = _
    rw [ClassicOutcome.result, tree]
    rfl
  · obtain ⟨number, isNumber⟩ :
        ∃ number, ((Classic.outcome limits source).remains .null).offset.integer? = some number :=
      Whereabouts.exists_offset (.inl index)
    refine ⟨_, ClassicOutcome.result_of_failure fails isNumber source, ?_⟩
    have stands := Text.position_standsAt_clamp source number
    have within := Text.clamp_le source number
    have line_le := stands.line_le_length
    have column_le := stands.column_le_offset
    exact List.forall_mem_singleton.2 (Record.ofPlace_near (by omega) (by omega) _)

/-- Every source has a result with the modern grammar, unless a misplaced problem is handed over;
then the first such problem ends the check. -/
theorem modern_answers (limits : Limits) (source : List Char) (setting : Setting) :
    match (Modern.handed limits source setting.tolerant setting.isModule).find?
        Modern.Problem.isMisplaced with
    | some problem =>
        ((Grammars.standard limits).checkWith source setting .modern).outcome =
          .error (Modern.Problem.refusal limits problem)
    | none =>
        ∃ result, ((Grammars.standard limits).checkWith source setting .modern).outcome =
          .ok result ∧ result.Near source := by
  split
  next found => exact Modern.result_of_misplaced found
  next found =>
    obtain ⟨result, given, records⟩ := Modern.result_of_placed found
    refine ⟨result, given, ?_⟩
    unfold Result.Near
    rcases records with ⟨message, records⟩ | records
    · rw [records]
      exact List.forall_mem_singleton.2 (Record.ofPlace_near (by omega) (by omega) message)
    · rw [records]
      refine List.forall_mem_map.2 fun problem isProblem => ?_
      obtain ⟨⟨-, line_le⟩, column_le, -⟩ :=
        Modern.handed_placed limits source setting.tolerant setting.isModule problem isProblem
      have counted : Grammar.lineNumber source.toArray source.toArray.size ≤ _ :=
        Grammar.lineNumber_le
      rw [List.size_toArray] at line_le column_le counted
      exact Record.ofPlace_near (by omega) column_le _

/-- With either grammar there is a result, or a misplaced problem of the modern one. -/
theorem standard_answers (limits : Limits) (source : List Char) (setting : Setting)
    (dialect : Dialect) :
    (∃ result, ((Grammars.standard limits).checkWith source setting dialect).outcome = .ok result ∧
      result.Near source) ∨
    ∃ problem, dialect = .modern ∧
      (Modern.handed limits source setting.tolerant setting.isModule).find?
        Modern.Problem.isMisplaced = some problem ∧
      ((Grammars.standard limits).checkWith source setting dialect).outcome =
        .error (Modern.Problem.refusal limits problem) := by
  cases dialect with
  | classic => exact .inl (classic_answers limits source setting)
  | modern =>
      have answers := modern_answers limits source setting
      cases found : (Modern.handed limits source setting.tolerant setting.isModule).find?
          Modern.Problem.isMisplaced with
      | some problem =>
          rw [found] at answers
          exact .inr ⟨problem, rfl, rfl, answers⟩
      | none =>
          rw [found] at answers
          exact .inl answers

/-- The diagnostics of a result near a source can be shown. The source must not be longer than a
count can be. -/
theorem Result.Near.fit {source : List Char} {result : Result} (near : result.Near source)
    (countable : source.length + 2 < 9223372036854775808) {diagnostics : List Diagnostic}
    (records : diagnostics.map Diagnostic.record = result.records) :
    ∀ diagnostic ∈ diagnostics, diagnostic.Fits limits := by
  intro diagnostic listed
  obtain ⟨line_le, column_le⟩ := near _ (records ▸ List.mem_map_of_mem listed)
  have line_small := line_le diagnostic.line rfl
  have column_small := column_le diagnostic.column rfl
  have line_pos := diagnostic.line_pos
  exact {
    column := Diagnostic.column_fits (by omega)
    line := Limits.writes_of_small (by omega) }

/-- A report on diagnostics that can be shown comes to its end. -/
theorem Report.make_fault {diagnostics : List Diagnostic}
    (fit : ∀ diagnostic ∈ diagnostics, diagnostic.Fits limits) (filepath : String)
    (source : List Char) :
    (make limits filepath source (diagnostics.map Diagnostic.record)).fault = none := by
  rw [make, ofLines_of_fits filepath _ fit]

/-- Diagnostics that can be shown can be dumped. -/
theorem Dump.exists_text {diagnostics : List Diagnostic}
    (fit : ∀ diagnostic ∈ diagnostics, diagnostic.Fits limits) (filepath : String) :
    ∃ text, Dump.text limits filepath (diagnostics.map Diagnostic.record) = .ok text := by
  have dumped : ∀ record ∈ diagnostics.map Diagnostic.record, record.IsDumped limits :=
    List.forall_mem_map.2 fun diagnostic listed => Record.ofPlace_isDumped.2
      ⟨(fit diagnostic listed).line, Report.writes_of_fitsIndex (fit diagnostic listed).column⟩
  exact ⟨_, (text_eq limits filepath _).trans (if_pos dumped)⟩

namespace CommandLine

open ScriptCheck.Files

/-- A call that asks to check a file that is there, and for no dump or one that can be written. -/
structure Checks (tree : Tree) (arguments : List String) (invocation : Invocation)
    (dialect : Dialect) (octets : List UInt8) : Prop where
  parsed : parse arguments = .ok (.check invocation)
  dialect_eq : invocation.dialect = .text dialect.name
  isPath : isPath invocation.file
  readable : tree.read invocation.file = .ok octets
  writable : invocation.dump = none ∨ ∃ path, invocation.dump = some (.text path) ∧
    CommandLine.isPath path ∧ ∃ location, tree.target path = .ok location

/-- A file that can be written is put at its location. -/
theorem access_write {tree : Tree} {path : String} {location : Location}
    (target : tree.target path = .ok location) (octets : List UInt8) :
    (Tree.access.write path octets).run tree = (.ok (), tree.put location octets) := by
  have written : tree.write path octets = .ok (tree.put location octets) := by
    rw [Tree.write, target]
    rfl
  simp only [Tree.access, StateT.run_bind, StateT.run_get, pure_bind, written]
  rfl

/-- What a dump leaves behind: it changes the file at its location. Nothing changes without it. -/
def Dumped (limits : Limits) (invocation : Invocation) (result : Result) (before after : Tree) :
    Prop :=
  match invocation.dump with
  | some (.text path) => ∃ location, before.target path = .ok location ∧
      ∃ text, Dump.text limits invocation.file result.records = .ok text ∧
        after = before.put location (Text.Utf8.encode text)
  | _ => after = before

/-- A dump changes the file that it is written to and no other. -/
theorem Dumped.changes {invocation : Invocation} {result : Result} {tree after : Tree}
    (dumped : Dumped limits invocation result tree after) {path : String}
    (dump : invocation.dump = some (.text path)) :
    ∃ location text, tree.target path = .ok location ∧
      Dump.text limits invocation.file result.records = .ok text ∧
      after.read path = .ok (Text.Utf8.encode text) ∧
      ∀ other, other ≠ location → after.files.lookup other = tree.files.lookup other := by
  simp only [Dumped, dump] at dumped
  obtain ⟨location, target, text, made, rfl⟩ := dumped
  exact ⟨location, text, target, made, Tree.read_put target _,
    fun _ apart => Tree.lookup_put_of_ne _ apart⟩

/-- Without a dump nothing changes. -/
theorem Dumped.unchanged {invocation : Invocation} {result : Result} {tree after : Tree}
    (dumped : Dumped limits invocation result tree after)
    (noDump : ∀ path, invocation.dump ≠ some (.text path)) : after = tree := by
  unfold Dumped at dumped
  split at dumped
  next path dump => exact absurd dump (noDump path)
  next => exact dumped

section WriteDump

variable {tree : Tree} {invocation : Invocation} {result : Result}

/-- Without a dump nothing is written. -/
theorem writeDump_none (noDump : invocation.dump = none) (before : List Char) :
    (writeDump Tree.access limits invocation result before).run tree = (.ok (), tree) ∧
      Dumped limits invocation result tree tree := by
  simp only [writeDump, Dumped, noDump]
  exact ⟨rfl, trivial⟩

variable {path : String} {location : Location}

/-- A dump that can be made is written where it can be. -/
theorem writeDump_written (dump : invocation.dump = some (.text path)) (pathFits : isPath path)
    (target : tree.target path = .ok location) {text : List Char}
    (made : Dump.text limits invocation.file result.records = .ok text) (before : List Char) :
    (writeDump Tree.access limits invocation result before).run tree =
        (.ok (), tree.put location (Text.Utf8.encode text)) ∧
      Dumped limits invocation result tree (tree.put location (Text.Utf8.encode text)) := by
  constructor
  · simp only [writeDump, dump, pathFits, made, Bool.not_true, Bool.false_eq_true, ↓reduceIte,
      StateT.run_bind, access_write target]
    rfl
  · simp only [Dumped, dump]
    exact ⟨location, target, text, made, rfl⟩

/-- The file of a dump that cannot be made is left empty. -/
theorem writeDump_emptied (dump : invocation.dump = some (.text path)) (pathFits : isPath path)
    (target : tree.target path = .ok location) {fault : Fault}
    (unmade : Dump.text limits invocation.file result.records = .error fault)
    (before : List Char) :
    (writeDump Tree.access limits invocation result before).run tree =
      (.error { stderr := before, ending := .error fault }, tree.put location []) := by
  simp only [writeDump, dump, pathFits, unmade, Bool.not_true, Bool.false_eq_true, ↓reduceIte,
    StateT.run_bind, access_write target]
  rfl

end WriteDump

/-- A call about a file that can be read comes to the check. -/
theorem run_of_read {tree : Tree} {arguments : List String} {invocation : Invocation}
    {octets : List UInt8} (parsed : parse arguments = .ok (.check invocation))
    (isPath : isPath invocation.file) (readable : tree.read invocation.file = .ok octets)
    (grammars : Grammars) :
    (run Tree.access grammars arguments).run tree =
      (checkSource Tree.access grammars invocation (sourceOf octets)).run tree := by
  have found : (Tree.access.read invocation.file).run tree = (.ok octets, tree) := by
    simp only [Tree.access, StateT.run_bind, StateT.run_get, pure_bind, readable]
    rfl
  simp only [run, parsed, isPath, Bool.not_true, Bool.false_eq_true, ↓reduceIte,
    StateT.run_bind, found]
  rfl

/-- A call that checks a file comes to the check. -/
theorem run_eq_checkSource {tree : Tree} {arguments : List String} {invocation : Invocation}
    {dialect : Dialect} {octets : List UInt8}
    (checks : Checks tree arguments invocation dialect octets) (grammars : Grammars) :
    (run Tree.access grammars arguments).run tree =
      (checkSource Tree.access grammars invocation (sourceOf octets)).run tree :=
  run_of_read checks.parsed checks.isPath checks.readable grammars

/-- A call that checks a file makes the check that its dialect names. -/
theorem Checks.check_eq {tree : Tree} {arguments : List String} {invocation : Invocation}
    {dialect : Dialect} {octets : List UInt8}
    (checks : Checks tree arguments invocation dialect octets) (grammars : Grammars)
    (source : List Char) :
    invocation.check grammars source = grammars.checkWith source invocation.setting dialect := by
  rw [Invocation.check, checks.dialect_eq]
  exact Grammars.check_name dialect

/-- A call whose check has a result writes the dump and comes to its report, unless it asks for a
dump that cannot be made. -/
theorem run_of_result {tree : Tree} {arguments : List String} {invocation : Invocation}
    {dialect : Dialect} {octets : List UInt8}
    (checks : Checks tree arguments invocation dialect octets) {grammars : Grammars}
    {result : Result}
    (given : (grammars.checkWith (sourceOf octets) invocation.setting dialect).outcome =
      .ok result) :
    let log := logText grammars.limits invocation.verbose
        (grammars.checkWith (sourceOf octets) invocation.setting dialect).events ++
      logText grammars.limits invocation.verbose [.finished invocation.file result.records.length
        result.verdict.isStopped]
    let ran := (run Tree.access grammars arguments).run tree
    (∃ after, ran = (reported grammars.limits invocation (sourceOf octets) result log, after) ∧
      Dumped grammars.limits invocation result tree after) ∨
    ∃ path location fault, invocation.dump = some (.text path) ∧
      tree.target path = .ok location ∧
      Dump.text grammars.limits invocation.file result.records = .error fault ∧
      ran = ({ stderr := log, ending := .error fault }, tree.put location []) := by
  intro log ran
  have ran_eq : ran = _ := run_eq_checkSource checks grammars
  unfold checkSource at ran_eq
  rw [checks.check_eq] at ran_eq
  simp only [given, StateT.run_bind] at ran_eq
  rcases checks.writable with noDump | ⟨path, dump, pathFits, location, target⟩
  · obtain ⟨passed, undumped⟩ := writeDump_none noDump log
    rw [passed] at ran_eq
    exact .inl ⟨tree, ran_eq, undumped⟩
  · cases made : Dump.text grammars.limits invocation.file result.records with
    | ok text =>
        obtain ⟨written, dumped⟩ := writeDump_written dump pathFits target made log
        rw [written] at ran_eq
        exact .inl ⟨_, ran_eq, dumped⟩
    | error fault =>
        rw [writeDump_emptied dump pathFits target made log] at ran_eq
        exact .inr ⟨path, location, fault, dump, target, rfl, ran_eq⟩

/-- A call that checks a file ends as the check does: with its fault, or with the code of its
verdict. -/
theorem run_checks {tree : Tree} {arguments : List String} {invocation : Invocation}
    {dialect : Dialect} {octets : List UInt8}
    (checks : Checks tree arguments invocation dialect octets) (grammars : Grammars)
    (complete : ∀ result,
      (grammars.checkWith (sourceOf octets) invocation.setting dialect).outcome = .ok result →
      ∃ diagnostics : List Diagnostic, diagnostics.map Diagnostic.record = result.records ∧
        ∀ diagnostic ∈ diagnostics, diagnostic.Fits grammars.limits) :
    ((run Tree.access grammars arguments).run tree).1.ending =
      (grammars.checkWith (sourceOf octets) invocation.setting dialect).outcome.map
        fun result => (Report.verdict result).code := by
  cases outcome : (grammars.checkWith (sourceOf octets) invocation.setting dialect).outcome with
  | error fault =>
      rw [run_eq_checkSource checks]
      unfold checkSource
      rw [checks.check_eq]
      simp only [outcome]
      rfl
  | ok result =>
      obtain ⟨diagnostics, records, fit⟩ := complete result outcome
      rcases run_of_result checks outcome with
        ⟨after, ran, -⟩ | ⟨path, location, fault, -, -, unmade, -⟩
      · rw [ran, reported, ← records, Report.make_fault fit]
        rfl
      · obtain ⟨text, made⟩ := Dump.exists_text fit invocation.file
        rw [records] at made
        cases made.symm.trans unmade

/-- A call that checks a file ends with zero or one, or with the fault about a misplaced problem.
The source must not be longer than a count can be. -/
theorem run_ends {tree : Tree} {arguments : List String} {invocation : Invocation}
    {dialect : Dialect} {octets : List UInt8}
    (checks : Checks tree arguments invocation dialect octets)
    (countable : (sourceOf octets).length + 2 < 9223372036854775808) :
    let ended := ((run Tree.access (.standard limits) arguments).run tree).1
    ended.ending = .ok 0 ∨ ended.ending = .ok 1 ∨
      ∃ problem, dialect = .modern ∧
        (Modern.handed limits (sourceOf octets) invocation.setting.tolerant
          invocation.setting.isModule).find? Modern.Problem.isMisplaced = some problem ∧
        ended.ending = .error (.badRecord (.notPositive .column
          (String.ofList (Text.signedDecimal problem.column)))) := by
  obtain ⟨result, given, near⟩ | ⟨problem, isModern, found, refused⟩ :=
    standard_answers limits (sourceOf octets) invocation.setting dialect
  · have sound : result.IsSound := by
      rw [← Grammars.check_name] at given
      exact Grammars.check_isSound given
    obtain ⟨diagnostics, records⟩ := Record.exists_diagnostics sound
    have ending := run_checks checks (.standard limits) fun other othersGiven => by
      cases given.symm.trans othersGiven
      exact ⟨diagnostics, records, near.fit countable records⟩
    rw [given] at ending
    cases verdict : Report.verdict result with
    | success => exact .inl (by rw [ending, Except.map, verdict]; rfl)
    | failure => exact .inr (.inl (by rw [ending, Except.map, verdict]; rfl))
  · have ending := run_checks checks (.standard limits) fun other given => by
      cases refused.symm.trans given
    have writes := Modern.writes_column (by omega) (List.mem_of_find?_eq_some found)
    rw [refused, Modern.refusal_of_writes writes] at ending
    exact .inr (.inr ⟨problem, isModern, found, ending⟩)

end CommandLine

open CommandLine Files Grammar

/-- Checks and calls come to an end. With the classic grammar every source has a result. With the
modern one it has a result too, unless a problem is handed over with a column below one, which takes
a source of several lines; then the record of the first such problem is refused, and what is said
shows the column if the source is not longer than a count can be. A call that checks a file ends
with zero or one, or with this fault. All this holds on every machine. -/
theorem checks_answered (limits : Limits) :
    (∀ (source : List Char) (setting : Setting), ∃ result,
      ((Grammars.standard limits).check source setting Dialect.classic.name).outcome =
        .ok result) ∧
    (∀ (source : List Char) (setting : Setting),
      match (Modern.handed limits source setting.tolerant setting.isModule).find?
          Modern.Problem.isMisplaced with
      | some problem =>
          ((Grammars.standard limits).check source setting Dialect.modern.name).outcome =
            .error (Modern.Problem.refusal limits problem) ∧
          (source.length < 9223372036854775808 →
            Modern.Problem.refusal limits problem = .badRecord (.notPositive .column
              (String.ofList (Text.signedDecimal problem.column)))) ∧
          problem.column < 1 ∧ ∃ character ∈ source, isLineEnd character
      | none => ∃ result,
          ((Grammars.standard limits).check source setting Dialect.modern.name).outcome =
            .ok result) ∧
    (∀ (tree : Tree) (arguments : List String) (invocation : Invocation) (dialect : Dialect)
        (octets : List UInt8), Checks tree arguments invocation dialect octets →
      (sourceOf octets).length + 2 < 9223372036854775808 →
      let ended := ((run Tree.access (.standard limits) arguments).run tree).1
      ended.ending = .ok 0 ∨ ended.ending = .ok 1 ∨
        ∃ problem, dialect = .modern ∧
          (Modern.handed limits (sourceOf octets) invocation.setting.tolerant
            invocation.setting.isModule).find? Modern.Problem.isMisplaced = some problem ∧
          ended.ending = .error (.badRecord (.notPositive .column
            (String.ofList (Text.signedDecimal problem.column))))) := by
  refine ⟨fun source setting => ?_, fun source setting => ?_, ?_⟩
  · obtain ⟨result, given, -⟩ := classic_answers limits source setting
    rw [Grammars.check_name]
    exact ⟨result, given⟩
  · have answers := modern_answers limits source setting
    rw [Grammars.check_name]
    cases found : (Modern.handed limits source setting.tolerant setting.isModule).find?
        Modern.Problem.isMisplaced with
    | some problem =>
        rw [found] at answers
        have isHanded := List.mem_of_find?_eq_some found
        have isMisplaced : Modern.Problem.isMisplaced problem = true := List.find?_some found
        have column_lt : problem.column < 1 := of_decide_eq_true isMisplaced
        obtain ⟨-, -, -, placed⟩ :=
          Modern.handed_placed limits source setting.tolerant setting.isModule problem isHanded
        obtain ⟨character, isOfSource, isEnd⟩ := placed.resolve_left (by omega)
        exact ⟨answers,
          fun countable => Modern.refusal_of_writes (Modern.writes_column countable isHanded),
          column_lt, character, List.mem_toArray.1 isOfSource, isEnd⟩
    | none =>
        rw [found] at answers
        obtain ⟨result, given, -⟩ := answers
        exact ⟨result, given⟩
  · exact fun _ _ _ _ _ checks countable => run_ends checks countable

/-- A call that checks a file with one semicolon is such a call. -/
theorem semicolon_file_answered :
    Checks ⟨[(["a.js"], [59])]⟩ ["a.js"]
      ⟨"a.js", .text Dialect.modern.name, false, false, none, false⟩ .modern [59] ∧
    let ended := ((run Tree.access (.standard .usual) ["a.js"]).run ⟨[(["a.js"], [59])]⟩).1
    ended.ending = .ok 0 ∨ ended.ending = .ok 1 ∨
      ∃ problem : Problem, ended.ending = .error (.badRecord (.notPositive .column
        (String.ofList (Text.signedDecimal problem.column)))) := by
  have classified : Word.classifyAll ["a.js"] = .ok [.operand "a.js"] := rfl
  have checks : Checks ⟨[(["a.js"], [59])]⟩ ["a.js"]
      ⟨"a.js", .text Dialect.modern.name, false, false, none, false⟩ .modern [59] := {
    parsed := by simp [parse, classified, scan, Given.request, bind, Except.bind]
    dialect_eq := rfl
    isPath := rfl
    readable := rfl
    writable := .inl rfl }
  refine ⟨checks, ?_⟩
  rcases (checks_answered .usual).2.2 _ _ _ _ _ checks (by decide) with
    none | some | ⟨problem, -, -, refused⟩
  · exact .inl none
  · exact .inr (.inl some)
  · exact .inr (.inr ⟨problem, refused⟩)

/-- A text that is not closed behind an escaped line end is complained about at its start, on the
line of its end. The column of the complaint falls below one, and no result can be made of it. -/
theorem unclosed_text_unanswered :
    ¬ ∃ result,
      ((Grammars.standard .usual).check ['"', '\\', '\n'] {} Dialect.modern.name).outcome =
        .ok result := by
  rintro ⟨result, given⟩
  have refused :
      ((Grammars.standard .usual).check ['"', '\\', '\n'] {} Dialect.modern.name).outcome =
        .error (.badRecord (.notPositive .column "-2")) := rfl
  cases refused.symm.trans given

end ScriptCheck
