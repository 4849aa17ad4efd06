import ScriptCheck.Proofs.AddedOption
import ScriptCheck.Proofs.CallCourse

/-!
# To watch a call does not change it

A verbose call logs more, and a dump tells once more what was found. Neither has a part in anything
else: there is one transcript of what a call has to show, a verbose call shows all of it, and one
that is not leaves out the entries for debugging. A dump comes between the check and the report and
touches neither. `observation_harmless` compares the calls pairwise.
-/

namespace ScriptCheck

/-- Whether an item is an entry of the log for debugging. -/
def Report.Item.isDebug : Report.Item → Bool
  | .event entry => entry.level == .debug
  | .block _ => false

namespace CommandLine

open Files

section Transcript

/-- The text of an item that is shown. -/
def itemText (limits : Limits) : Report.Item → List Char
  | .event entry => (entry.logLine limits).toList
  | .block text => text

/-- The items that a call shows: all of them if it is verbose, else those that are not for
debugging. -/
def shownItems (verbose : Bool) (items : List Report.Item) : List Report.Item :=
  items.filter fun item => verbose || !item.isDebug

/-- A verbose call shows every item. -/
theorem shownItems_verbose (items : List Report.Item) : shownItems true items = items :=
  List.filter_eq_self.2 fun _ _ => rfl

/-- What is shown of a report is the text of the items that are shown. -/
theorem reportText_eq (limits : Limits) (verbose : Bool) (items : List Report.Item) :
    reportText limits verbose items = (shownItems verbose items).flatMap (itemText limits) := by
  induction items with
  | nil => rfl
  | cons item items inductionHypothesis =>
      unfold reportText at inductionHypothesis ⊢
      rw [List.flatMap_cons, inductionHypothesis]
      cases item with
      | block text => simp [shownItems, Report.Item.isDebug, itemText]
      | event entry =>
          have same : isShown verbose entry = (verbose || !(Report.Item.event entry).isDebug) := by
            cases entry <;> rfl
          cases shown : isShown verbose entry <;>
            simp [shownItems, logText, itemText, shown, ← same]

/-- So are the lines of a log, where its entries are the items. -/
theorem logText_eq (limits : Limits) (verbose : Bool) (events : List Event) :
    logText limits verbose events =
      (shownItems verbose (events.map .event)).flatMap (itemText limits) := by
  rw [← reportText_eq]
  induction events with
  | nil => rfl
  | cons entry events inductionHypothesis =>
      have cut : logText limits verbose (entry :: events) =
          logText limits verbose [entry] ++ logText limits verbose events :=
        logText_append limits verbose [entry] events
      rw [cut, inductionHypothesis]
      rfl

end Transcript

section Behind

/-- The same end, behind what was printed before. -/
def Ended.behind (before : List Char) (ended : Ended) : Ended :=
  { ended with stderr := before ++ ended.stderr }

/-- How a call ends behind its log: as its dump ends it, or with its report. -/
def closing (limits : Limits) (tree : Tree) (invocation : Invocation) (source : List Char)
    (result : Result) : Ended × Tree :=
  match (writeDump Tree.access limits invocation result []).run tree with
  | (.error ended, after) => (ended, after)
  | (.ok _, after) => (reported limits invocation source result [], after)

/-- A dump has no part in what was printed before it. -/
theorem writeDump_behind (limits : Limits) (tree : Tree) (invocation : Invocation)
    (result : Result) (before : List Char) :
    (writeDump Tree.access limits invocation result before).run tree =
      match (writeDump Tree.access limits invocation result []).run tree with
      | (.error ended, after) => (.error (ended.behind before), after)
      | (.ok written, after) => (.ok written, after) := by
  have faulty (fault : Fault) : ({ stderr := before, ending := .error fault } : Ended) =
      ({ ending := .error fault } : Ended).behind before := by
    simp [Ended.behind]
  cases dump : invocation.dump with
  | none =>
      simp only [writeDump, dump]
      rfl
  | some value =>
      cases value with
      | nothing =>
          simp only [writeDump, dump, faulty]
          rfl
      | text path =>
          cases fits : isPath path with
          | false =>
              simp only [writeDump, dump, fits, faulty]
              rfl
          | true =>
              simp only [writeDump, dump, fits, Bool.not_true, Bool.false_eq_true, ↓reduceIte,
                StateT.run_bind]
              cases Dump.text limits invocation.file result.records with
              | ok text =>
                  rcases (Tree.access.write path (Text.Utf8.encode text)).run tree with
                    ⟨_ | _, after⟩ <;> rfl
              | error fault =>
                  simp only [faulty]
                  rcases (Tree.access.write path []).run tree with ⟨_ | _, after⟩ <;> rfl

/-- A call that comes to its report shows its log and its report as one list of items. -/
theorem behind_reported (limits : Limits) (invocation : Invocation) (source : List Char)
    (result : Result) (events : List Event) :
    ((reported limits invocation source result []).behind
        (logText limits invocation.verbose events)).stderr =
      (shownItems invocation.verbose (events.map .event ++
        (Report.make limits invocation.file source result.records).items)).flatMap
          (itemText limits) := by
  show logText limits invocation.verbose events ++
    ([] ++ reportText limits invocation.verbose _) = _
  rw [List.nil_append, logText_eq, reportText_eq, shownItems, shownItems, shownItems,
    List.filter_append, List.flatMap_append]

/-- A call whose check has a result ends as it does behind its log. -/
theorem run_closing {grammars : Grammars} {tree : Tree} {arguments : List String}
    {invocation : Invocation} {octets : List UInt8} {result : Result}
    (reads : Reads tree arguments invocation octets)
    (checked : (invocation.check grammars (sourceOf octets)).outcome = .ok result) :
    (run Tree.access grammars arguments).run tree =
      ((closing grammars.limits tree invocation (sourceOf octets) result).1.behind
          (logText grammars.limits invocation.verbose (invocation.log grammars (sourceOf octets))),
        (closing grammars.limits tree invocation (sourceOf octets) result).2) := by
  rw [run_of_read reads.parsed reads.isPath reads.readable, checkSource_of_result checked,
    writeDump_behind, closing]
  rcases (writeDump Tree.access grammars.limits invocation result []).run tree with
    ⟨_ | _, after⟩ <;> rfl

end Behind

section Asking

/-- The same request, but for a change of its check. -/
def Request.map (change : Invocation → Invocation) : Request → Request
  | .help => .help
  | .check invocation => .check (change invocation)

/-- Arguments leave it standing that a call be verbose. -/
theorem Given.stands_verbosely : Given.Stands fun given => { given with verbose := true } := {}

/-- Arguments leave a dump standing, unless they ask for one of their own. -/
theorem Given.stands_dumping (path : OptionValue) :
    Given.Stands fun given => { given with dump := given.dump.or (some path) } := {}

/-- To ask for a verbose call in front of other arguments makes their call verbose. -/
theorem parse_verbose (arguments : List String) :
    parse ("-v" :: arguments) = (parse arguments).map
      (Request.map fun invocation => { invocation with verbose := true }) := by
  have acts (words : List Word) : scan {} .nothing (.short .verbose none :: words) =
      scan { verbose := true } .nothing words := by
    rw [scan_short, scan.option]
    rfl
  refine parse_cons Given.stands_verbosely ⟨by decide, by decide⟩ acts rfl (fun given => ?_) _
  unfold Given.request
  cases given.file with
  | none => rfl
  | some file => dsimp only; split <;> rfl

/-- A dump that is asked for in front of other arguments is written, unless they ask for another. -/
theorem parse_dump {path : String} (named : path ≠ Word.separatorText) (arguments : List String) :
    parse (("--dump=" ++ path) :: arguments) =
      (parse arguments).map (Request.map fun invocation =>
        { invocation with dump := invocation.dump.or (some (.text path)) }) := by
  have acts (words : List Word) : scan {} .nothing (.long .dump (some path) :: words) =
      scan { dump := some (.text path) } .nothing words := by
    rw [scan_long, scan.option, attachedValue, if_neg named]
    rfl
  refine parse_cons (Given.stands_dumping (.text path)) (means_dump path) acts rfl
    (fun given => ?_) _
  unfold Given.request
  cases given.file with
  | none => rfl
  | some file => dsimp only; split <;> rfl

end Asking

/-- Who watches a call does not change it, whatever the grammars are. A call that is verbose ends
like the same call that is not, and leaves the same files behind. It shows the transcript, where the
other leaves out the entries for debugging and nothing else; if the dump ends both, they show the
log in this manner, and the same complaint. A call that writes a dump prints the same and ends in
the same way as one that does not, to whatever file the dump goes. Only a dump that cannot be made
ends its call, and leaves its file empty; dumps of the results of this library can be made on every
machine. Both options can be put in front of the arguments of any call. -/
theorem observation_harmless (grammars : Grammars) {tree : Tree} {arguments : List String}
    {invocation : Invocation} {octets : List UInt8} {result : Result}
    (reads : Reads tree arguments invocation octets)
    (checked : (invocation.check grammars (sourceOf octets)).outcome = .ok result) :
    let ran := fun arguments => (run Tree.access grammars arguments).run tree
    let log := (invocation.log grammars (sourceOf octets)).map Report.Item.event
    let transcript := log ++
      (Report.make grammars.limits invocation.file (sourceOf octets) result.records).items
    (∀ loud, invocation.verbose = false →
      parse loud = .ok (.check { invocation with verbose := true }) →
      (ran loud).1.ending = (ran arguments).1.ending ∧ (ran loud).2 = (ran arguments).2 ∧
      (((ran loud).1.stderr = transcript.flatMap (itemText grammars.limits) ∧
          (ran arguments).1.stderr = (transcript.filter fun item => !item.isDebug).flatMap
            (itemText grammars.limits)) ∨
        ∃ ended after, Undumped grammars.limits tree invocation result [] ended after ∧
          (ran loud).1.stderr = log.flatMap (itemText grammars.limits) ++ ended.stderr ∧
          (ran arguments).1.stderr = (log.filter fun item => !item.isDebug).flatMap
            (itemText grammars.limits) ++ ended.stderr)) ∧
    (∀ dumping path location, invocation.dump = none →
      parse dumping = .ok (.check { invocation with dump := some (.text path) }) →
      isPath path → tree.target path = .ok location →
      (ran arguments).2 = tree ∧
      match Dump.text grammars.limits invocation.file result.records with
      | .ok text =>
          (ran dumping).1 = (ran arguments).1 ∧
          (ran dumping).2 = tree.put location (Text.Utf8.encode text)
      | .error fault =>
          (ran dumping).1.ending = .error fault ∧ (ran dumping).2 = tree.put location []) ∧
    (∀ limits, grammars = .standard limits → tree.IsCountable →
      ∃ text, Dump.text grammars.limits invocation.file result.records = .ok text) ∧
    parse ("-v" :: arguments) = .ok (.check { invocation with verbose := true }) ∧
    ∀ path, path ≠ Word.separatorText → invocation.dump = none →
      parse (("--dump=" ++ path) :: arguments) =
        .ok (.check { invocation with dump := some (.text path) }) := by
  intro ran log transcript
  have ended : ran arguments = _ := run_closing reads checked
  refine ⟨fun loud quiet parsed => ?_, fun dumping path location noDump parsed fits target => ?_,
    ?_, by rw [parse_verbose, reads.parsed]; rfl, fun path named noDump => ?_⟩
  · have loudReads : Reads tree loud { invocation with verbose := true } octets :=
      ⟨parsed, reads.isPath, reads.readable⟩
    have loudEnded : ran loud = _ := run_closing loudReads checked
    have sameDump : (writeDump Tree.access grammars.limits { invocation with verbose := true }
        result []).run tree =
          (writeDump Tree.access grammars.limits invocation result []).run tree := rfl
    rw [loudEnded, ended, closing, closing, sameDump]
    obtain ⟨after, written, -⟩ | ⟨refusal, after, unwritten, undumped⟩ :=
      writeDump_cases grammars.limits tree invocation result []
    · rw [written]
      refine ⟨rfl, rfl, .inl ⟨?_, ?_⟩⟩
      · exact (behind_reported _ _ _ _ _).trans (by rw [shownItems_verbose]; rfl)
      · exact (behind_reported _ _ _ _ _).trans (by rw [quiet]; rfl)
    · rw [unwritten]
      refine ⟨rfl, rfl, .inr ⟨refusal, after, undumped, ?_, ?_⟩⟩
      · show logText grammars.limits true _ ++ refusal.stderr = _
        rw [logText_eq, shownItems_verbose]
        rfl
      · show logText grammars.limits invocation.verbose _ ++ refusal.stderr = _
        rw [logText_eq, quiet]
        rfl
  · let dumper : Invocation := { invocation with dump := some (.text path) }
    have dumpingReads : Reads tree dumping dumper octets :=
      ⟨parsed, reads.isPath, reads.readable⟩
    have dumpingEnded : ran dumping = _ := run_closing dumpingReads checked
    have passed : (writeDump Tree.access grammars.limits invocation result []).run tree =
        (.ok (), tree) := (writeDump_none noDump []).1
    have dump : dumper.dump = some (.text path) := rfl
    cases made : Dump.text grammars.limits invocation.file result.records with
    | ok text =>
        have written := (writeDump_written dump fits target made []).1
        rw [dumpingEnded, ended, closing, closing, written, passed]
        exact ⟨rfl, rfl, rfl⟩
    | error fault =>
        have emptied := writeDump_emptied dump fits target made []
        rw [dumpingEnded, ended, closing, closing, emptied, passed]
        exact ⟨rfl, rfl, rfl⟩
  · rintro limits rfl countable
    exact reads.exists_dump countable checked
  · rw [parse_dump named, reads.parsed]
    simp only [Except.map, Request.map, noDump, Option.none_or]

/-- A call about a brace that closes nothing ends like the verbose one. It also ends like the one
that dumps what was found into the very file that is checked, and prints the same. -/
theorem checked_file_overwritten :
    let tree : Tree := ⟨[(["a.js"], [125])]⟩
    let arguments := spelled "a.js" .classic true false none
    let invocation : Invocation :=
      ⟨"a.js", .text Dialect.classic.name, true, false, none, false⟩
    let result : Result := .failure (.ofPlace 1 1 "IndexError: list index out of range")
    let ran := fun arguments => (run Tree.access (.standard .usual) arguments).run tree
    Reads tree arguments invocation [125] ∧
    (invocation.check (.standard .usual) (sourceOf [125])).outcome = .ok result ∧
    (ran ("-v" :: arguments)).1.ending = (ran arguments).1.ending ∧
    (ran ("--dump=a.js" :: arguments)).1 = (ran arguments).1 ∧
    ∃ text, Dump.text .usual "a.js" result.records = .ok text ∧
      (ran ("--dump=a.js" :: arguments)).2 = tree.put ["a.js"] (Text.Utf8.encode text) := by
  intro tree arguments invocation result ran
  have readable : Tree.read ⟨[(["a.js"], [125])]⟩ "a.js" = .ok [125] := rfl
  have target : Tree.target ⟨[(["a.js"], [125])]⟩ "a.js" = .ok ["a.js"] := rfl
  have reads : Reads tree arguments invocation [125] :=
    ⟨parse_spelled "a.js" .classic true false (by decide), by decide, readable⟩
  have checked : (invocation.check (.standard .usual) (sourceOf [125])).outcome = .ok result := rfl
  obtain ⟨verbosely, dumping, makes, loud, dumps⟩ :=
    observation_harmless (.standard .usual) reads checked
  obtain ⟨text, made⟩ := makes .usual rfl (by simp [Tree.IsCountable, tree])
  obtain ⟨-, ends⟩ := dumping _ "a.js" ["a.js"] rfl (dumps "a.js" (by decide) rfl)
    (by decide) target
  rw [made] at ends
  exact ⟨reads, checked, (verbosely _ rfl loud).1, ends.1, text, made, ends.2⟩

end CommandLine

end ScriptCheck
