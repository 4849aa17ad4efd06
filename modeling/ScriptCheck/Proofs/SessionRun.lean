import ScriptCheck.Proofs.Block
import ScriptCheck.Proofs.Dumping
import ScriptCheck.Session

/-!
# Runs of a session

Source, result and stream of a session change independently of each other: a record may be shown
against a source that it does not come from. `Session.Orderly` says what each step is to do all the
same, whichever state it is taken in. `Session.run_orderly` says that every step of a run is
orderly, as long as the results that are put in by hand hold diagnostics. The invariant of the run
is that the session holds nothing else, and every step keeps it.
-/

namespace ScriptCheck

namespace Session

/-- A step that puts in nothing by hand but diagnostics. -/
def Step.Admissible : Step → Prop
  | .result replacement => replacement.IsSound
  | _ => True

/-- The sessions of a run, from the first to the last. There is one more of them than of steps. -/
def sessions (grammars : Grammars) (session : Session) (steps : List Step) : List Session :=
  session :: (run grammars session steps).map Prod.fst

/-- A session with other records and the same verdict. -/
def withRecords (session : Session) (records : List Record) : Session :=
  session.withResult { session.result with records }

/-- The answer to a report on diagnostics: their blocks against the source that is held, and a
warning for each of them whose line the source does not have. A line of too many digits ends it. -/
def reportReply (limits : Limits) (session : Session) (diagnostics : List Diagnostic)
    (signal : Signal) : Reply where
  written := (Diagnostic.shown limits diagnostics).flatMap
    (Diagnostic.block session.filepath (Text.lines session.source))
  events := (Diagnostic.reached limits diagnostics).flatMap fun diagnostic =>
    Report.warnings session.filepath (Text.lines session.source) diagnostic.line
  outcome :=
    if ∀ diagnostic ∈ diagnostics, limits.Writes diagnostic.line then .ok (some signal)
    else .error limits.digitFault

/-- What a report is to do. It changes nothing but what is written, and shows the records that are
held, unless there is a column that cannot be counted to. -/
def Shows (limits : Limits) (before after : Session) (reply : Reply) (signal : Signal) : Prop :=
  after = before.write reply.written ∧
  ∀ diagnostics : List Diagnostic, diagnostics.map Diagnostic.record = before.result.records →
    (∀ diagnostic ∈ diagnostics, diagnostic.column < 9223372036854775808) →
      reply = before.reportReply limits diagnostics signal

/-- What each step is to do. A load puts one record behind the others. A drop takes out the record
with so many before it, or with one less behind it than its index is below zero. -/
def Effect (grammars : Grammars) (before after : Session) (reply : Reply) : Step → Prop
  | .source text => after = { before with source := text } ∧ reply = {}
  | .result replacement => after = before.withResult replacement ∧ reply = {}
  | .check setting name =>
      (∃ result, (grammars.check before.source setting name).outcome = .ok result ∧
        after = before.withResult result ∧ reply.written = [] ∧ reply.outcome = .ok none) ∨
      ∃ fault, (grammars.check before.source setting name).outcome = .error fault ∧
        after = before ∧ reply.written = [] ∧ reply.outcome = .error fault
  | .load object =>
      (∃ diagnostic : Diagnostic, Record.load grammars.limits object = .ok diagnostic.record ∧
        after = before.withRecords (before.result.records ++ [diagnostic.record]) ∧ reply = {}) ∨
      ∃ fault, Record.load grammars.limits object = .error fault ∧
        after = before ∧ reply = { outcome := .error fault }
  | .drop index =>
      (∃ earlier record later, before.result.records = earlier ++ record :: later ∧
        (index = (earlier.length : Int) ∨ index = -((later.length : Int) + 1)) ∧
        after = before.withRecords (earlier ++ later) ∧ reply = {}) ∨
      (index < -(before.result.records.length : Int) ∨
        (before.result.records.length : Int) ≤ index) ∧
        after = before ∧ ∃ fault, reply = { outcome := .error fault }
  | .report =>
      Shows grammars.limits before after reply
        (if before.result.records = [] then .success else .failure)
  | .verdict =>
      Shows grammars.limits before after reply
        (if before.result.verdict.isStopped = false ∧ before.result.records = [] then .success
          else .failure)
  | .dump =>
      (∃ text, Dump.text grammars.limits before.filepath before.result.records = .ok text ∧
        after = before.write text ∧ reply = { written := text }) ∨
      (∃ record ∈ before.result.records, ¬ record.IsDumped grammars.limits) ∧
        after = before ∧ reply = { outcome := .error grammars.limits.digitFault }

/-- A step that does what it is to do. -/
structure Orderly (grammars : Grammars) (before : Session) (step : Step) (after : Session)
    (reply : Reply) : Prop where
  /-- The session goes on to hold diagnostics. -/
  sound : after.result.IsSound
  /-- A fault leaves everything as it was, unless it cuts a report short. -/
  unchanged : ∀ fault, reply.outcome = .error fault → step ≠ .report → step ≠ .verdict →
    after = before
  /-- Reports and dumps never fail, unless there is a column that cannot be counted to, or a line of
  too many digits. -/
  shown : step = .report ∨ step = .verdict ∨ step = .dump →
    (∀ diagnostic : Diagnostic, diagnostic.record ∈ before.result.records →
      diagnostic.column < 9223372036854775808) →
    (∃ signal, reply.outcome = .ok signal) ∨
    reply.outcome = .error grammars.limits.digitFault ∧
      ∃ diagnostic : Diagnostic, diagnostic.record ∈ before.result.records ∧
        ¬ grammars.limits.Writes diagnostic.line
  effect : Effect grammars before after reply step

variable {grammars : Grammars}

/-- An index within the records takes out the record it names, counted from either end. Other
indexes are faults. -/
theorem dropAt_cases {α : Type} (items : List α) (index : Int) :
    (∃ earlier item later, items = earlier ++ item :: later ∧
      (index = (earlier.length : Int) ∨ index = -((later.length : Int) + 1)) ∧
      dropAt items index = .ok (earlier ++ later)) ∨
    (index < -(items.length : Int) ∨ (items.length : Int) ≤ index) ∧
      ∃ fault, dropAt items index = .error fault := by
  unfold dropAt
  by_cases within : -(items.length : Int) ≤ index ∧ index < items.length
  · left
    obtain ⟨place, place_eq⟩ : ∃ place : Nat,
        (if index < 0 then index + items.length else index) = place :=
      ⟨(if index < 0 then index + items.length else index).toNat, by split <;> omega⟩
    have short : place < items.length := by
      split at place_eq <;> omega
    refine ⟨items.take place, items[place], items.drop (place + 1), ?_, ?_, ?_⟩
    · rw [List.getElem_cons_drop, List.take_append_drop]
    · simp only [List.length_take, List.length_drop]
      split at place_eq <;> omega
    · simp [place_eq, short, List.eraseIdx_eq_take_drop_succ]
  · right
    refine ⟨by omega, ?_⟩
    have outside : ¬ (0 ≤ (if index < 0 then index + items.length else index) ∧
        (if index < 0 then index + items.length else index) < items.length) := by
      split <;> omega
    simp only [outside, ↓reduceIte]
    split
    · exact ⟨_, rfl⟩
    · split <;> exact ⟨_, rfl⟩

/-- A report on diagnostics whose columns can be counted to shows them, up to the first whose line
has too many digits. -/
theorem reporting_shows (limits : Limits) (session : Session) (signal : Signal) :
    Shows limits session (session.reporting limits signal).1 (session.reporting limits signal).2
      signal := by
  refine ⟨rfl, fun diagnostics held small => ?_⟩
  obtain ⟨blocks_eq, events_eq, fault_eq⟩ :=
    Report.ofLines_record limits session.filepath (Text.lines session.source) small
  simp only [reporting, Report.make, reportReply, ← held, Report.written, blocks_eq, events_eq,
    fault_eq, List.flatMap_def, Diagnostic.digitFault?]
  by_cases writes : ∀ diagnostic ∈ diagnostics, limits.Writes diagnostic.line
  · simp only [if_pos writes]
  · simp only [if_neg writes]

/-- A dump is written whole, or not at all. -/
theorem dumping_cases (limits : Limits) (session : Session) :
    (∃ text, Dump.text limits session.filepath session.result.records = .ok text ∧
      session.dumping limits = (session.write text, { written := text })) ∨
    (∃ record ∈ session.result.records, ¬ record.IsDumped limits) ∧
      session.dumping limits = (session, { outcome := .error limits.digitFault }) := by
  by_cases dumped : ∀ record ∈ session.result.records, record.IsDumped limits
  · have text_eq := (Dump.text_eq limits session.filepath _).trans (if_pos dumped)
    exact .inl ⟨_, text_eq, by rw [dumping, text_eq]⟩
  · have text_eq := (Dump.text_eq limits session.filepath _).trans (if_neg dumped)
    exact .inr ⟨by simpa using dumped, by rw [dumping, text_eq]⟩

/-- Every step does what it is to do, in whichever session it is taken. -/
theorem step_effect (before : Session) (step : Step) :
    Effect grammars before (before.step grammars step).1 (before.step grammars step).2 step := by
  cases step with
  | source text => exact ⟨rfl, rfl⟩
  | check setting name =>
      simp only [Session.step, Effect]
      cases checked : (grammars.check before.source setting name).outcome with
      | ok result => exact .inl ⟨result, rfl, rfl, rfl, rfl⟩
      | error fault => exact .inr ⟨fault, rfl, rfl, rfl, rfl⟩
  | result replacement => exact ⟨rfl, rfl⟩
  | load object =>
      simp only [Session.step, Effect, changingRecords]
      cases loaded : Record.load grammars.limits object with
      | ok record =>
          obtain ⟨diagnostic, rfl⟩ := Record.load_isDiagnostic loaded
          exact .inl ⟨diagnostic, rfl, rfl, rfl⟩
      | error fault => exact .inr ⟨fault, rfl, rfl, rfl⟩
  | drop index =>
      simp only [Session.step, Effect, changingRecords]
      rcases dropAt_cases before.result.records index with
        ⟨earlier, record, later, held, place, dropped⟩ | ⟨outside, fault, dropped⟩
      · rw [dropped]
        exact .inl ⟨earlier, record, later, held, place, rfl, rfl⟩
      · rw [dropped]
        exact .inr ⟨outside, rfl, fault, rfl⟩
  | report =>
      have signal : Report.signal before.result.records =
          if before.result.records = [] then .success else .failure := by
        simp [Report.signal]
      simpa only [Effect, Session.step, signal] using reporting_shows grammars.limits before _
  | verdict =>
      have signal : Report.verdict before.result =
          if before.result.verdict.isStopped = false ∧ before.result.records = [] then .success
          else .failure := by
        simp only [Report.verdict, Result.failed, Bool.or_eq_true, Bool.not_eq_true',
          List.isEmpty_eq_false_iff]
        split <;> split <;> simp_all
      simpa only [Effect, Session.step, signal] using reporting_shows grammars.limits before _
  | dump =>
      simp only [Session.step, Effect]
      obtain ⟨text, made, dumped⟩ | ⟨unwritten, refused⟩ := dumping_cases grammars.limits before
      · rw [dumped]
        exact .inl ⟨text, made, rfl, rfl⟩
      · rw [refused]
        exact .inr ⟨unwritten, rfl, rfl⟩

/-- A fault leaves a session as it was, unless it cuts a report short. -/
theorem Effect.unchanged {before after : Session} {reply : Reply} {step : Step} {fault : Fault}
    (effect : Effect grammars before after reply step) (faulty : reply.outcome = .error fault)
    (notReport : step ≠ .report) (notVerdict : step ≠ .verdict) : after = before := by
  cases step with
  | report => exact absurd rfl notReport
  | verdict => exact absurd rfl notVerdict
  | check setting name =>
      rcases effect with ⟨_, _, _, _, fine⟩ | ⟨_, _, same, _⟩
      · rw [fine] at faulty
        cases faulty
      · exact same
  | load object =>
      rcases effect with ⟨_, _, _, rfl⟩ | ⟨_, _, same, _⟩
      · cases faulty
      · exact same
  | drop index =>
      rcases effect with ⟨_, _, _, _, _, _, rfl⟩ | ⟨_, same, _⟩
      · cases faulty
      · exact same
  | dump =>
      rcases effect with ⟨_, _, _, rfl⟩ | ⟨_, same, _⟩
      · cases faulty
      · exact same
  | source | result =>
      obtain ⟨-, rfl⟩ := effect
      cases faulty

/-- A session holds nothing but diagnostics after what a step is to do. -/
theorem Effect.sound {before after : Session} {reply : Reply} {step : Step}
    (effect : Effect grammars before after reply step) (sound : before.result.IsSound)
    (admissible : step.Admissible) : after.result.IsSound := by
  cases step with
  | source text =>
      obtain ⟨rfl, -⟩ := effect
      exact sound
  | result replacement =>
      obtain ⟨rfl, -⟩ := effect
      exact admissible
  | check setting name =>
      rcases effect with ⟨result, checked, rfl, -⟩ | ⟨_, _, rfl, -⟩
      · exact Grammars.check_isSound checked
      · exact sound
  | load object =>
      rcases effect with ⟨diagnostic, -, rfl, -⟩ | ⟨_, _, rfl, -⟩
      · intro record listed
        rcases List.mem_append.1 listed with earlier | last
        · exact sound record earlier
        · exact ⟨diagnostic, (List.mem_singleton.1 last).symm⟩
      · exact sound
  | drop index =>
      rcases effect with ⟨earlier, dropped, later, held, -, rfl, -⟩ | ⟨-, rfl, -⟩
      · intro record listed
        refine sound record ?_
        rw [held]
        rcases List.mem_append.1 listed with before | behind
        · exact List.mem_append_left _ before
        · exact List.mem_append_right _ (List.mem_cons_of_mem _ behind)
      · exact sound
  | report | verdict =>
      obtain ⟨rfl, -⟩ := effect
      exact sound
  | dump =>
      rcases effect with ⟨_, _, rfl, _⟩ | ⟨_, rfl, _⟩ <;> exact sound

/-- Where columns can be counted to, reports and dumps of diagnostics fail only because of a line of
too many digits. -/
theorem Effect.shown {before after : Session} {reply : Reply} {step : Step}
    (effect : Effect grammars before after reply step) (sound : before.result.IsSound)
    (shows : step = .report ∨ step = .verdict ∨ step = .dump)
    (small : ∀ diagnostic : Diagnostic, diagnostic.record ∈ before.result.records →
      diagnostic.column < 9223372036854775808) :
    (∃ signal, reply.outcome = .ok signal) ∨
    reply.outcome = .error grammars.limits.digitFault ∧
      ∃ diagnostic : Diagnostic, diagnostic.record ∈ before.result.records ∧
        ¬ grammars.limits.Writes diagnostic.line := by
  obtain ⟨diagnostics, held⟩ := Record.exists_diagnostics sound
  have isHeld : ∀ diagnostic ∈ diagnostics, diagnostic.record ∈ before.result.records :=
    fun diagnostic listed => held ▸ List.mem_map_of_mem listed
  have reported {signal : Signal} (shows : Shows grammars.limits before after reply signal) :
      (∃ signal, reply.outcome = .ok signal) ∨
      reply.outcome = .error grammars.limits.digitFault ∧
        ∃ diagnostic : Diagnostic, diagnostic.record ∈ before.result.records ∧
          ¬ grammars.limits.Writes diagnostic.line := by
    obtain rfl := shows.2 diagnostics held fun diagnostic listed =>
      small diagnostic (isHeld diagnostic listed)
    by_cases writes : ∀ diagnostic ∈ diagnostics, grammars.limits.Writes diagnostic.line
    · exact .inl ⟨_, if_pos writes⟩
    · obtain ⟨diagnostic, listed, unwritten⟩ : ∃ diagnostic ∈ diagnostics,
          ¬ grammars.limits.Writes diagnostic.line := by simpa using writes
      exact .inr ⟨if_neg writes, diagnostic, isHeld diagnostic listed, unwritten⟩
  rcases shows with rfl | rfl | rfl
  · exact reported effect
  · exact reported effect
  · obtain ⟨text, -, -, rfl⟩ | ⟨⟨record, listed, unwritten⟩, -, rfl⟩ := effect
    · exact .inl ⟨none, rfl⟩
    · obtain ⟨diagnostic, rfl⟩ := sound record listed
      refine .inr ⟨rfl, diagnostic, listed, fun lineWrites => unwritten ?_⟩
      have column_pos := diagnostic.column_pos
      have column_lt := small diagnostic listed
      exact Record.ofPlace_isDumped.2 ⟨lineWrites, Limits.writes_of_small (by omega)⟩

/-- Steps keep a session sound, and do what they are to do. -/
theorem step_orderly {before : Session} (sound : before.result.IsSound) {step : Step}
    (admissible : step.Admissible) :
    Orderly grammars before step (before.step grammars step).1 (before.step grammars step).2 :=
  have effect := step_effect before step
  ⟨effect.sound sound admissible, fun _ => effect.unchanged, effect.shown sound, effect⟩

/-- Every step of a run is orderly if the session holds diagnostics at the start, as it does before
and after each step. -/
theorem steps_orderly {session : Session} (sound : session.result.IsSound) {steps : List Step}
    (admissible : ∀ step ∈ steps, step.Admissible) {place : Nat} {step : Step}
    (taken : steps[place]? = some step) :
    ∃ before after reply,
      (sessions grammars session steps)[place]? = some before ∧
      (sessions grammars session steps)[place + 1]? = some after ∧
      (run grammars session steps)[place]? = some (after, reply) ∧
      before.result.IsSound ∧
      Orderly grammars before step after reply := by
  induction steps generalizing session place with
  | nil => cases taken
  | cons first others inductionHypothesis =>
      have orderly : Orderly grammars session first _ _ :=
        step_orderly sound (admissible first List.mem_cons_self)
      cases place with
      | zero =>
          cases taken
          exact ⟨session, _, _, rfl, rfl, rfl, sound, orderly⟩
      | succ place =>
          exact inductionHypothesis orderly.sound
            (fun step later => admissible step (List.mem_cons_of_mem _ later)) taken

/-- A session starts with an empty source, a success without diagnostics, and nothing written. In
each run from there, whatever the grammars make of sources, every step is orderly. -/
theorem run_orderly (grammars : Grammars) (filepath : String) (steps : List Step)
    (admissible : ∀ step ∈ steps, step.Admissible) (place : Nat) (step : Step)
    (taken : steps[place]? = some step) :
    ∃ before after reply,
      (sessions grammars { filepath } steps)[place]? = some before ∧
      (sessions grammars { filepath } steps)[place + 1]? = some after ∧
      (run grammars { filepath } steps)[place]? = some (after, reply) ∧
      before.result.IsSound ∧
      Orderly grammars before step after reply :=
  steps_orderly (Result.success_isSound fun _ listed => absurd listed List.not_mem_nil)
    admissible taken

/-- A diagnostic is loaded and dropped, so that a second drop finds nothing and changes nothing. -/
theorem drop_from_empty_changes_nothing :
    ∃ before after reply,
      (run (.standard .usual) { filepath := "a.js" }
        [.load (.mapping [("lineNumber", .int 3), ("column", .int 2), ("message", .text "odd")]),
          .drop (-1), .drop 0, .verdict])[2]? = some (after, reply) ∧
      reply.outcome = .error .dropFromEmpty ∧ after = before ∧ before.result.IsSound := by
  obtain ⟨before, after, reply, -, -, taken, sound, orderly⟩ :=
    run_orderly (.standard .usual) "a.js"
      [.load (.mapping [("lineNumber", .int 3), ("column", .int 2), ("message", .text "odd")]),
        .drop (-1), .drop 0, .verdict]
      (by simp [Step.Admissible]) 2 (.drop 0) rfl
  have faulty : reply.outcome = .error .dropFromEmpty := by
    cases taken
    rfl
  exact ⟨before, after, reply, taken, faulty,
    orderly.unchanged _ faulty (by simp) (by simp), sound⟩

end Session

end ScriptCheck
