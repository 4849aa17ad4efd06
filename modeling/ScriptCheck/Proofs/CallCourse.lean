import ScriptCheck.Proofs.LibraryCall

/-!
# How a call goes

A call may end at several points: `Course` lists them, with what is printed up to there and what has
become of the files. The files change at the last of them only, behind everything that can be wrong
with the arguments, the file, the check and the path of the dump. So a call that fails leaves all
files as they are and shows no report: `failed_call_harmless`.
-/

namespace ScriptCheck

open Files

section Counting

namespace Text

/-- An octet gives a character, or opens a sequence that gives one. -/
theorem Utf8.start_length (octet : UInt8) :
    (start octet).1.length + (start octet).2.toList.length = 1 := by
  simp only [start]
  split_ifs <;> rfl

/-- An octet behind an open sequence gives the characters of both at most. -/
theorem Utf8.resume_length_le (sequence : Unfinished) (octet : UInt8) :
    (resume sequence octet).1.length + (resume sequence octet).2.toList.length ≤ 2 := by
  have started := start_length octet
  simp only [resume]
  split_ifs
  · simp
  · simp
  · simp only [List.length_cons]
    omega

/-- Octets give one character each at most, and the sequence that is open one more. -/
theorem Utf8.decodeFrom_length_le (sequence : Option Unfinished) (octets : List UInt8) :
    (decodeFrom sequence octets).length ≤ octets.length + sequence.toList.length := by
  induction octets generalizing sequence with
  | nil => cases sequence <;> simp [decodeFrom]
  | cons octet octets inductionHypothesis =>
      cases sequence with
      | none =>
          have given := start_length octet
          have rest := inductionHypothesis (start octet).2
          simp only [decodeFrom, List.length_append, List.length_cons, Option.toList_none,
            List.length_nil]
          omega
      | some sequence =>
          have given := resume_length_le sequence octet
          have rest := inductionHypothesis (resume sequence octet).2
          simp only [decodeFrom, List.length_append, List.length_cons, Option.toList_some,
            List.length_nil]
          omega

/-- Line ends do not become more characters. -/
theorem unifyLineEnds_length_le (text : List Char) : (unifyLineEnds text).length ≤ text.length := by
  induction text using unifyLineEnds.induct with
  | case1 => exact Nat.le_refl 0
  | case2 rest inductionHypothesis =>
      simp only [unifyLineEnds, List.length_cons]
      omega
  | case3 character rest apart inductionHypothesis =>
      rw [unifyLineEnds.eq_3 character rest apart]
      exact Nat.succ_le_succ inductionHypothesis

end Text

/-- The source of a file is not longer than the file. -/
theorem CommandLine.sourceOf_length_le (octets : List UInt8) :
    (sourceOf octets).length ≤ octets.length :=
  (Text.unifyLineEnds_length_le _).trans (Text.Utf8.decodeFrom_length_le none octets)

/-- A tree whose files can be counted: each of them is shorter than an index may be. -/
def Files.Tree.IsCountable (tree : Tree) : Prop :=
  ∀ file ∈ tree.files, file.2.length + 2 < 9223372036854775808

/-- A file is at a location when the tree has one for it. -/
theorem Files.Tree.entry?_eq_file {tree : Tree} {location : Location} {octets : List UInt8}
    (isFile : tree.entry? location = some (.file octets)) :
    tree.files.lookup location = some octets := by
  unfold entry? at isFile
  split at isFile
  next found =>
    cases isFile
    exact found
  next => split at isFile <;> cases isFile

/-- What is read is what a file of the tree holds. -/
theorem Files.Tree.exists_file_of_read {tree : Tree} {text : String} {octets : List UInt8}
    (readable : tree.read text = .ok octets) : ∃ location, (location, octets) ∈ tree.files := by
  obtain ⟨path, -, readable⟩ := bind_eq_ok.1 readable
  obtain ⟨location, -, readable⟩ := bind_eq_ok.1 readable
  split at readable
  next isFile =>
    split at readable
    next => cases readable
    next =>
      cases readable
      obtain ⟨files, others, stored, -⟩ := List.lookup_eq_some_iff.1 (entry?_eq_file isFile)
      exact ⟨location, stored ▸ List.mem_append_right files List.mem_cons_self⟩
  next => cases readable
  next => cases readable

end Counting

namespace CommandLine

section Course

variable {grammars : Grammars} {tree : Tree} {arguments : List String} {invocation : Invocation}

/-- Why a dump that is asked for is not written, how this ends a call and what it leaves behind. All
files stay as they are, but for the one that was opened for a dump that cannot be made. -/
inductive Undumped (limits : Limits) (tree : Tree) (invocation : Invocation) (result : Result)
    (before : List Char) : Ended → Tree → Prop
  | nameless (dump : invocation.dump = some .nothing) :
      Undumped limits tree invocation result before
        { stderr := before, ending := .error (.mismatch (.opensPath "list")) } tree
  | noPath {path : String} (dump : invocation.dump = some (.text path))
      (noPath : isPath path = false) :
      Undumped limits tree invocation result before
        { stderr := before, ending := .error .nullInPath } tree
  | unwritable {path : String} {problem : FileProblem} (dump : invocation.dump = some (.text path))
      (unwritable : tree.target path = .error problem) :
      Undumped limits tree invocation result before
        (refused ("cannot write " ++ path ++ ": " ++ problem.reason) before) tree
  | unmade {path : String} {location : Location} {fault : Fault}
      (dump : invocation.dump = some (.text path)) (target : tree.target path = .ok location)
      (unmade : Dump.text limits invocation.file result.records = .error fault) :
      Undumped limits tree invocation result before
        { stderr := before, ending := .error fault } (tree.put location [])

/-- A file that cannot be written leaves the tree as it was. -/
theorem access_write_error {path : String} {problem : FileProblem}
    (unwritable : tree.target path = .error problem) (octets : List UInt8) :
    (Tree.access.write path octets).run tree = (.error problem, tree) := by
  have unwritten : tree.write path octets = .error problem := by
    rw [Tree.write, unwritable]
    rfl
  simp only [Tree.access, StateT.run_bind, StateT.run_get, pure_bind, unwritten]
  rfl

/-- A dump is written, or it is not and the call ends. -/
theorem writeDump_cases (limits : Limits) (tree : Tree) (invocation : Invocation)
    (result : Result) (before : List Char) :
    (∃ after, (writeDump Tree.access limits invocation result before).run tree = (.ok (), after) ∧
      invocation.dump ≠ some .nothing ∧ Dumped limits invocation result tree after) ∨
    ∃ ended after,
      (writeDump Tree.access limits invocation result before).run tree = (.error ended, after) ∧
      Undumped limits tree invocation result before ended after := by
  cases dump : invocation.dump with
  | none =>
      obtain ⟨passed, dumped⟩ := writeDump_none dump before
      exact .inl ⟨tree, passed, by simp, dumped⟩
  | some value =>
      cases value with
      | nothing =>
          refine .inr ⟨_, tree, ?_, .nameless dump⟩
          simp only [writeDump, dump]
          rfl
      | text path =>
          cases fits : isPath path with
          | false =>
              refine .inr ⟨_, tree, ?_, .noPath dump fits⟩
              simp only [writeDump, dump, fits]
              rfl
          | true =>
              cases target : tree.target path with
              | ok location =>
                  cases made : Dump.text limits invocation.file result.records with
                  | ok text =>
                      obtain ⟨written, dumped⟩ := writeDump_written dump fits target made before
                      exact .inl ⟨_, written, by simp, dumped⟩
                  | error fault =>
                      exact .inr ⟨_, _, writeDump_emptied dump fits target made before,
                        .unmade dump target made⟩
              | error problem =>
                  refine .inr ⟨_, tree, ?_, .unwritable dump target⟩
                  simp only [writeDump, dump, fits, Bool.not_true, Bool.false_eq_true, ↓reduceIte,
                    StateT.run_bind, access_write_error target]
                  rfl

/-- What a call logs about its check, up to the result if there is one. -/
def Invocation.log (invocation : Invocation) (grammars : Grammars) (source : List Char) :
    List Event :=
  let logged := invocation.check grammars source
  match logged.outcome with
  | .error _ => logged.events
  | .ok result =>
      logged.events ++
        [.finished invocation.file result.records.length result.verdict.isStopped]

/-- Lines of a log are written one behind the other. -/
theorem logText_append (limits : Limits) (verbose : Bool) (events others : List Event) :
    logText limits verbose (events ++ others) =
      logText limits verbose events ++ logText limits verbose others := by
  rw [logText, List.filter_append, List.flatMap_append]
  rfl

/-- A call has a source when it names a file that can be read. -/
structure Reads (tree : Tree) (arguments : List String) (invocation : Invocation)
    (octets : List UInt8) : Prop where
  parsed : parse arguments = .ok (.check invocation)
  isPath : isPath invocation.file
  readable : tree.read invocation.file = .ok octets

/-- How a call may go: what it asks for, how it ends and the files that are there in the end. -/
inductive Course (grammars : Grammars) (tree : Tree) (arguments : List String) :
    Ended → Tree → Prop
  | misused {problem : ArgumentProblem} (misused : parse arguments = .error problem) :
      Course grammars tree arguments (refused problem.message) tree
  | helped (helped : parse arguments = .ok .help) :
      Course grammars tree arguments { stdout := help.toList, ending := .ok 0 } tree
  | noPath {invocation : Invocation} (parsed : parse arguments = .ok (.check invocation))
      (noPath : CommandLine.isPath invocation.file = false) :
      Course grammars tree arguments { ending := .error .nullInPath } tree
  | unreadable {invocation : Invocation} {problem : FileProblem}
      (parsed : parse arguments = .ok (.check invocation))
      (unreadable : tree.read invocation.file = .error problem) :
      Course grammars tree arguments
        (refused ("cannot read " ++ invocation.file ++ ": " ++ problem.reason)) tree
  | unchecked {invocation : Invocation} {octets : List UInt8} {fault : Fault}
      (reads : Reads tree arguments invocation octets)
      (unchecked : (invocation.check grammars (sourceOf octets)).outcome = .error fault) :
      Course grammars tree arguments
        { stderr :=
            logText grammars.limits invocation.verbose (invocation.log grammars (sourceOf octets))
          ending := .error fault } tree
  | undumped {invocation : Invocation} {octets : List UInt8} {result : Result} {ended : Ended}
      {after : Tree} (reads : Reads tree arguments invocation octets)
      (checked : (invocation.check grammars (sourceOf octets)).outcome = .ok result)
      (undumped : Undumped grammars.limits tree invocation result
        (logText grammars.limits invocation.verbose (invocation.log grammars (sourceOf octets)))
        ended after) :
      Course grammars tree arguments ended after
  | reported {invocation : Invocation} {octets : List UInt8} {result : Result} {after : Tree}
      (reads : Reads tree arguments invocation octets)
      (checked : (invocation.check grammars (sourceOf octets)).outcome = .ok result)
      (dumped : Dumped grammars.limits invocation result tree after)
      (named : invocation.dump ≠ some .nothing) :
      Course grammars tree arguments
        (reported grammars.limits invocation (sourceOf octets) result
          (logText grammars.limits invocation.verbose (invocation.log grammars (sourceOf octets))))
        after

/-- A check that has a result goes on to its dump, and if that does not end the call, to its
report. -/
theorem checkSource_of_result {source : List Char} {result : Result}
    (checked : (invocation.check grammars source).outcome = .ok result) (tree : Tree) :
    let log := logText grammars.limits invocation.verbose (invocation.log grammars source)
    (checkSource Tree.access grammars invocation source).run tree =
      match (writeDump Tree.access grammars.limits invocation result log).run tree with
      | (.error ended, after) => (ended, after)
      | (.ok _, after) => (reported grammars.limits invocation source result log, after) := by
  intro log
  have log_eq : log = logText grammars.limits invocation.verbose
        (invocation.check grammars source).events ++
      logText grammars.limits invocation.verbose [.finished invocation.file result.records.length
        result.verdict.isStopped] := by
    simp only [log, Invocation.log, checked, logText_append]
  unfold checkSource
  simp only [checked, ← log_eq, StateT.run_bind]
  rcases (writeDump Tree.access grammars.limits invocation result log).run tree with
    ⟨_ | _, after⟩ <;> rfl

/-- A call that has read its source goes on as its check tells. -/
theorem checkSource_course {octets : List UInt8} (reads : Reads tree arguments invocation octets) :
    let ran := (checkSource Tree.access grammars invocation (sourceOf octets)).run tree
    Course grammars tree arguments ran.1 ran.2 := by
  cases checked : (invocation.check grammars (sourceOf octets)).outcome with
  | error fault =>
      have log : invocation.log grammars (sourceOf octets) =
          (invocation.check grammars (sourceOf octets)).events := by
        simp only [Invocation.log, checked]
      unfold checkSource
      simp only [checked, ← log]
      exact .unchecked reads checked
  | ok result =>
      simp only [checkSource_of_result checked]
      rcases writeDump_cases grammars.limits tree invocation result
          (logText grammars.limits invocation.verbose
            (invocation.log grammars (sourceOf octets))) with
        ⟨after, ran, named, dumped⟩ | ⟨ended, after, ran, undumped⟩
      · rw [ran]
        exact .reported reads checked dumped named
      · rw [ran]
        exact .undumped reads checked undumped

/-- Every call goes in one of these ways. -/
theorem run_course (grammars : Grammars) (tree : Tree) (arguments : List String) :
    let ran := (run Tree.access grammars arguments).run tree
    Course grammars tree arguments ran.1 ran.2 := by
  unfold run
  cases parsed : parse arguments with
  | error problem => exact .misused parsed
  | ok request =>
      cases request with
      | help => exact .helped parsed
      | check invocation =>
          cases isPath : isPath invocation.file with
          | false =>
              simp only [isPath]
              exact .noPath parsed isPath
          | true =>
              have found : (Tree.access.read invocation.file).run tree =
                  (tree.read invocation.file, tree) := rfl
              simp only [isPath, Bool.not_true, Bool.false_eq_true, ↓reduceIte, StateT.run_bind,
                found]
              cases readable : tree.read invocation.file with
              | error problem => exact .unreadable parsed readable
              | ok octets => exact checkSource_course ⟨parsed, isPath, readable⟩

end Course

section Harmless

/-- A call fails when it is refused or a fault escapes. -/
def Ended.Fails (ended : Ended) : Prop :=
  ended.ending = .ok 2 ∨ ∃ fault, ended.ending = .error fault

/-- An error stream without a report: the log of a check if a source was read, and a complaint if
the call was refused. -/
def Unreported (grammars : Grammars) (tree : Tree) (arguments : List String)
    (stderr : List Char) : Prop :=
  ∃ closing, (closing = [] ∨ ∃ message, closing = (complaint message).toList) ∧
    (stderr = closing ∨ ∃ invocation octets, Reads tree arguments invocation octets ∧
      stderr = logText grammars.limits invocation.verbose
        (invocation.log grammars (sourceOf octets)) ++ closing)

/-- A call that is refused before its check prints the complaint only. -/
theorem refused_stderr (message : String) :
    (refused message).stderr = (complaint message).toList := List.nil_append _

/-- A dump that is not written ends a call that fails. Where it can be made, nothing changes. -/
theorem Undumped.fails {limits : Limits} {tree after : Tree} {invocation : Invocation}
    {result : Result} {before : List Char} {ended : Ended}
    (undumped : Undumped limits tree invocation result before ended after)
    (made : ∃ text, Dump.text limits invocation.file result.records = .ok text) :
    after = tree ∧ ended.Fails ∧ ended.stdout = [] ∧ ∃ closing,
      (closing = [] ∨ ∃ message, closing = (complaint message).toList) ∧
      ended.stderr = before ++ closing := by
  cases undumped with
  | nameless => exact ⟨rfl, .inr ⟨_, rfl⟩, rfl, [], .inl rfl, (List.append_nil _).symm⟩
  | noPath => exact ⟨rfl, .inr ⟨_, rfl⟩, rfl, [], .inl rfl, (List.append_nil _).symm⟩
  | unwritable => exact ⟨rfl, .inl rfl, rfl, _, .inr ⟨_, rfl⟩, rfl⟩
  | unmade dump target unmade =>
      obtain ⟨text, made⟩ := made
      cases made.symm.trans unmade

/-- Before its report, a call changes no file: it fails, or it asks for help. The dump of its result
must be one that can be made. -/
theorem Course.report_or_unchanged {grammars : Grammars} {tree after : Tree}
    {arguments : List String} {ended : Ended}
    (course : Course grammars tree arguments ended after)
    (made : ∀ invocation octets result, Reads tree arguments invocation octets →
      (invocation.check grammars (sourceOf octets)).outcome = .ok result →
      ∃ text, Dump.text grammars.limits invocation.file result.records = .ok text) :
    (ended.Fails ∧ after = tree ∧ ended.stdout = [] ∧
      Unreported grammars tree arguments ended.stderr) ∨
    (parse arguments = .ok .help ∧ ended = { stdout := help.toList, ending := .ok 0 } ∧
      after = tree) ∨
    ∃ invocation octets result before, Reads tree arguments invocation octets ∧
      (invocation.check grammars (sourceOf octets)).outcome = .ok result ∧
      Dumped grammars.limits invocation result tree after ∧
      ended = CommandLine.reported grammars.limits invocation (sourceOf octets) result before := by
  cases course with
  | misused => exact .inl ⟨.inl rfl, rfl, rfl, _, .inr ⟨_, refused_stderr _⟩, .inl rfl⟩
  | helped helped => exact .inr (.inl ⟨helped, rfl, rfl⟩)
  | noPath => exact .inl ⟨.inr ⟨_, rfl⟩, rfl, rfl, [], .inl rfl, .inl rfl⟩
  | unreadable => exact .inl ⟨.inl rfl, rfl, rfl, _, .inr ⟨_, refused_stderr _⟩, .inl rfl⟩
  | unchecked reads =>
      exact .inl ⟨.inr ⟨_, rfl⟩, rfl, rfl, [], .inl rfl,
        .inr ⟨_, _, reads, (List.append_nil _).symm⟩⟩
  | undumped reads checked undumped =>
      obtain ⟨unchanged, fails, stdout, closing, kind, stderr⟩ :=
        undumped.fails (made _ _ _ reads checked)
      exact .inl ⟨fails, unchanged, stdout, closing, kind, .inr ⟨_, _, reads, stderr⟩⟩
  | reported reads checked dumped => exact .inr (.inr ⟨_, _, _, _, reads, checked, dumped, rfl⟩)

variable {limits : Limits} {tree : Tree} {arguments : List String} {invocation : Invocation}
  {octets : List UInt8} {result : Result}

/-- The result of a check that a call asks for has places near the source. -/
theorem Invocation.check_standard {source : List Char}
    (checked : (invocation.check (.standard limits) source).outcome = .ok result) :
    result.IsSound ∧ result.Near source := by
  unfold Invocation.check at checked
  split at checked
  next name isName =>
    refine ⟨Grammars.check_isSound checked, ?_⟩
    unfold Grammars.check at checked
    split at checked
    next dialect isDialect =>
      rcases standard_answers limits source invocation.setting dialect with
        ⟨answer, given, near⟩ | ⟨problem, -, -, refused⟩
      · cases given.symm.trans checked
        exact near
      · cases refused.symm.trans checked
    next => cases checked
  next => cases checked

/-- The result of a call that has read and checked its source can be shown and dumped. -/
theorem Reads.exists_fit (countable : tree.IsCountable)
    (reads : Reads tree arguments invocation octets)
    (checked : (invocation.check (.standard limits) (sourceOf octets)).outcome = .ok result) :
    ∃ diagnostics : List Diagnostic, diagnostics.map Diagnostic.record = result.records ∧
      ∀ diagnostic ∈ diagnostics, diagnostic.Fits limits := by
  obtain ⟨location, stored⟩ := Tree.exists_file_of_read reads.readable
  have short : octets.length + 2 < 9223372036854775808 := countable _ stored
  have source_le := sourceOf_length_le octets
  obtain ⟨sound, near⟩ := Invocation.check_standard checked
  obtain ⟨diagnostics, records⟩ := Record.exists_diagnostics sound
  exact ⟨diagnostics, records, near.fit (by omega) records⟩

/-- The dump of such a call can be made. -/
theorem Reads.exists_dump (countable : tree.IsCountable)
    (reads : Reads tree arguments invocation octets)
    (checked : (invocation.check (.standard limits) (sourceOf octets)).outcome = .ok result) :
    ∃ text, Dump.text limits invocation.file result.records = .ok text := by
  obtain ⟨diagnostics, records, fit⟩ := reads.exists_fit countable checked
  rw [← records]
  exact Dump.exists_text fit invocation.file

/-- The report of such a call gives a verdict. -/
theorem reported_ending (countable : tree.IsCountable)
    (reads : Reads tree arguments invocation octets)
    (checked : (invocation.check (.standard limits) (sourceOf octets)).outcome = .ok result)
    (before : List Char) :
    (reported limits invocation (sourceOf octets) result before).ending = .ok 0 ∨
      (reported limits invocation (sourceOf octets) result before).ending = .ok 1 := by
  obtain ⟨diagnostics, records, fit⟩ := reads.exists_fit countable checked
  simp only [reported, ← records, Report.make_fault fit]
  cases Report.verdict result with
  | success => exact .inl rfl
  | failure => exact .inr rfl

/-- A call for help is answered. -/
theorem run_help (helped : parse arguments = .ok .help)
    (grammars : Grammars) (tree : Tree) :
    (run Tree.access grammars arguments).run tree =
      ({ stdout := help.toList, ending := .ok 0 }, tree) := by
  unfold run
  rw [helped]
  rfl

/-- A call that fails leaves all files as they are, prints nothing and shows no report; one that
asks for help prints the help and nothing else. A call that checks a file and does not fail ends
with zero or one, and changes only the file that its dump is written to. So a file changes only
where a source was read and checked, and a dump of the result could be written there. All this holds
on every machine. -/
theorem failed_call_harmless (limits : Limits) {tree : Tree} (countable : tree.IsCountable)
    (arguments : List String) :
    let ran := (run Tree.access (.standard limits) arguments).run tree
    (ran.1.Fails →
      ran.2 = tree ∧ ran.1.stdout = [] ∧
        Unreported (.standard limits) tree arguments ran.1.stderr) ∧
    (parse arguments = .ok .help → ran = ({ stdout := help.toList, ending := .ok 0 }, tree)) ∧
    (ran.1.stdout ≠ [] → parse arguments = .ok .help) ∧
    (∀ invocation, parse arguments = .ok (.check invocation) → ¬ ran.1.Fails →
      (ran.1.ending = .ok 0 ∨ ran.1.ending = .ok 1) ∧
      (invocation.dump = none → ran.2 = tree) ∧
      ∀ path, invocation.dump = some (.text path) → ∃ location, tree.target path = .ok location ∧
        ∀ other, other ≠ location → ran.2.files.lookup other = tree.files.lookup other) ∧
    (ran.2 ≠ tree → ∃ invocation octets result path location,
      Reads tree arguments invocation octets ∧
      (invocation.check (.standard limits) (sourceOf octets)).outcome = .ok result ∧
      invocation.dump = some (.text path) ∧ tree.target path = .ok location ∧
      ∃ text, Dump.text limits invocation.file result.records = .ok text ∧
        ran.2.read path = .ok (Text.Utf8.encode text)) := by
  intro ran
  have course : Course (.standard limits) tree arguments ran.1 ran.2 :=
    run_course (.standard limits) tree arguments
  have answersHelp (helped : parse arguments = .ok .help) :=
    run_help helped (.standard limits) tree
  rcases course.report_or_unchanged fun _ _ _ reads checked =>
      reads.exists_dump countable checked with ⟨failed, unchanged, stdout, stderr⟩ |
    ⟨helped, ended, unchanged⟩ | ⟨invocation, octets, result, before, reads, checked, dumped, ended⟩
  · exact ⟨fun _ => ⟨unchanged, stdout, stderr⟩, answersHelp, fun printed => absurd stdout printed,
      fun _ _ passes => absurd failed passes, fun changed => absurd unchanged changed⟩
  · have passes : ¬ ran.1.Fails := by simp [Ended.Fails, ended]
    refine ⟨fun fails => absurd fails passes, answersHelp, fun _ => helped, fun _ parsed => ?_,
      fun changed => absurd unchanged changed⟩
    cases parsed.symm.trans helped
  · have ending : ran.1.ending = .ok 0 ∨ ran.1.ending = .ok 1 :=
      ended ▸ reported_ending countable reads checked before
    refine ⟨fun fails => ?_, answersHelp, fun printed => absurd (ended ▸ rfl) printed,
      fun other parsed _ => ?_, fun changed => ?_⟩
    · rcases ending with ending | ending <;>
        exact absurd fails (by simp [Ended.Fails, ending])
    · cases parsed.symm.trans reads.parsed
      refine ⟨ending, fun noDump => dumped.unchanged (by simp [noDump]), fun path dump => ?_⟩
      obtain ⟨location, text, target, -, -, others⟩ := dumped.changes dump
      exact ⟨location, target, others⟩
    · have hasDump : ∃ path, invocation.dump = some (.text path) := by
        by_contra noDump
        exact changed (dumped.unchanged (not_exists.1 noDump))
      obtain ⟨path, dump⟩ := hasDump
      obtain ⟨location, text, target, made, written, -⟩ := dumped.changes dump
      exact ⟨invocation, octets, result, path, location, reads, checked, dump, target, text, made,
        written⟩

/-- A dump below a file is refused, and an older dump stays. -/
theorem dump_below_file_refused :
    let tree : Tree := ⟨[(["a.js"], [125]), (["a.yaml"], [10])]⟩
    let ran := (run Tree.access (.standard .usual)
      (spelled "a.js" .classic false false (some "a.js/a.yaml"))).run tree
    ran.1.ending = .ok 2 ∧ ran.2 = tree ∧ ran.2.read "a.yaml" = .ok [10] ∧ ran.1.stdout = [] := by
  intro tree ran
  have parsed := parse_spelled "a.js" .classic false false
    (show some "a.js/a.yaml" ≠ some Word.separatorText by decide)
  have ending : ran.1.ending = .ok 2 := by
    simp only [ran, run, parsed]
    rfl
  obtain ⟨unchanged, stdout, -⟩ :=
    (failed_call_harmless .usual (show tree.IsCountable by simp [Tree.IsCountable, tree]) _).1
      (.inl ending)
  exact ⟨ending, unchanged, unchanged ▸ rfl, stdout⟩

end Harmless

end CommandLine

end ScriptCheck
