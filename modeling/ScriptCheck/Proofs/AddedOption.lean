import ScriptCheck.Proofs.LibraryCall

/-!
# Options in front of other arguments

An option that is put in front of other arguments acts before them. If what it gives stands whatever
the others give, the call asks for the same as without the option, but for what it gives:
`parse_cons`.
-/

namespace ScriptCheck.CommandLine

/-- A change of what is given that other arguments leave standing: it may be made before they act or
behind them. -/
structure Given.Stands (change : Given → Given) : Prop where
  file_eq : ∀ given, (change given).file = given.file := by intros; rfl
  withFile : ∀ given text,
    { change given with file := some text } = change { given with file := some text } := by
      intros; rfl
  withExtra : ∀ given text,
    (change given).withExtra text = change (given.withExtra text) := by intros; rfl
  asModule : ∀ given,
    { change given with isModule := true } = change { given with isModule := true } := by
      intros; rfl
  strict : ∀ given,
    { change given with strict := true } = change { given with strict := true } := by intros; rfl
  verbose : ∀ given,
    { change given with verbose := true } = change { given with verbose := true } := by intros; rfl
  withValue : ∀ given name value,
    (change given).withValue name value = (given.withValue name value).map change := by
      intro given name value
      unfold Given.withValue
      split
      · split <;> rfl
      all_goals rfl

/-- A short option acts where no argument waits for its value. -/
theorem scan_short (given : Given) (name : OptionName) (attached : Option String)
    (words : List Word) :
    scan given .nothing (.short name attached :: words) =
      scan.option given name true attached words := by
  rw [scan.eq_def given .nothing (.short name attached :: words)]

/-- So does a long one. -/
theorem scan_long (given : Given) (name : OptionName) (attached : Option String)
    (words : List Word) :
    scan given .nothing (.long name attached :: words) =
      scan.option given name false attached words := by
  rw [scan.eq_def given .nothing (.long name attached :: words)]

section Scan

variable {change : Given → Given}

/-- Flags leave the change standing. -/
theorem Given.Stands.withFlags (stands : Given.Stands change) (given : Given)
    (names : List OptionName) :
    (change given).withFlags names = (given.withFlags names).map change := by
  induction names generalizing given with
  | nil => rfl
  | cons name names inductionHypothesis =>
      cases name with
      | help => rfl
      | asModule =>
          simp only [Given.withFlags, stands.asModule]
          exact inductionHypothesis _
      | strict =>
          simp only [Given.withFlags, stands.strict]
          exact inductionHypothesis _
      | verbose =>
          simp only [Given.withFlags, stands.verbose]
          exact inductionHypothesis _
      | dialect | dump => exact inductionHypothesis given

/-- A change that was made before these arguments act is found again behind them, whatever was given
before and whatever waits for its value. -/
def LeaveStanding (change : Given → Given) (words : List Word) : Prop :=
  ∀ (given : Given) (waiting : Waiting),
    scan (change given) waiting words = (scan given waiting words).map (Option.map change)

namespace LeaveStanding

variable {words : List Word}

/-- A value leaves something given behind, unless it is refused. -/
theorem value (stands : Given.Stands change) (others : LeaveStanding change words) (given : Given)
    (name : OptionName) (value : OptionValue) :
    ((change given).withValue name value >>= fun given => scan given .nothing words) =
      (given.withValue name value >>= fun given => scan given .nothing words).map
        (Option.map change) := by
  rw [stands.withValue]
  cases given.withValue name value with
  | error problem => rfl
  | ok given => exact others given .nothing

/-- An option is a value, or waits for one, or is a row of flags. -/
theorem option (stands : Given.Stands change) (others : LeaveStanding change words) (given : Given)
    (name : OptionName) (isShort : Bool) (attached : Option String) :
    scan.option (change given) name isShort attached words =
      (scan.option given name isShort attached words).map (Option.map change) := by
  unfold scan.option
  split
  · cases attached with
    | none => exact others given _
    | some text => exact others.value stands given name _
  · cases flags name isShort attached with
    | error problem => rfl
    | ok names =>
        simp only [bind, Except.bind, stands.withFlags]
        cases given.withFlags names with
        | none => rfl
        | some given => exact others given .nothing

/-- An argument that is one too many is kept for the complaint. -/
theorem extra (stands : Given.Stands change) (others : LeaveStanding change words) (given : Given)
    (text : String) :
    scan ((change given).withExtra text) .nothing words =
      (scan (given.withExtra text) .nothing words).map (Option.map change) := by
  rw [stands.withExtra]
  exact others (given.withExtra text) .nothing

/-- The first operand is the file, and all others are too many. -/
theorem operand (stands : Given.Stands change) (others : LeaveStanding change words) (given : Given)
    (text : String) :
    (match (change given).file with
      | none => scan { change given with file := some text } .separator words
      | some _ => scan ((change given).withExtra text) .nothing words) =
    (match given.file with
      | none => scan { given with file := some text } .separator words
      | some _ => scan (given.withExtra text) .nothing words).map (Option.map change) := by
  rw [stands.file_eq]
  cases given.file with
  | none =>
      dsimp only
      rw [stands.withFile]
      exact others { given with file := some text } .separator
  | some file => exact others.extra stands given text

/-- A separator is passed over while the file is still to come. -/
theorem separator (stands : Given.Stands change) (others : LeaveStanding change words)
    (given : Given) :
    (if ((change given).file.isNone && !words.isEmpty) = true then
        scan (change given) .nothing words
      else scan ((change given).withExtra Word.separatorText) .nothing words) =
    (if (given.file.isNone && !words.isEmpty) = true then scan given .nothing words
      else scan (given.withExtra Word.separatorText) .nothing words).map (Option.map change) := by
  rw [stands.file_eq]
  split
  · exact others given .nothing
  · exact others.extra stands given _

/-- One argument more leaves the change standing, of whatever kind it is. -/
theorem cons (stands : Given.Stands change) (others : LeaveStanding change words) (word : Word) :
    LeaveStanding change (word :: words) := by
  intro given waiting
  unfold scan
  cases word with
  | operand text =>
      cases waiting with
      | value name => exact others.value stands given name (.text text)
      | nothing | separator => exact others.operand stands given text
  | separator =>
      cases waiting with
      | value name => rfl
      | nothing => exact others.separator stands given
      | separator => exact others given .nothing
  | unknown text =>
      cases waiting with
      | value name => rfl
      | nothing | separator => exact others.extra stands given text
  | short name attached =>
      cases waiting with
      | value other => rfl
      | nothing | separator => exact others.option stands given name true attached
  | long name attached =>
      cases waiting with
      | value other => rfl
      | nothing | separator => exact others.option stands given name false attached

end LeaveStanding

/-- Arguments leave the change standing. -/
theorem scan_change (stands : Given.Stands change) (words : List Word) :
    LeaveStanding change words := by
  induction words with
  | nil =>
      intro given waiting
      unfold scan
      cases waiting <;> rfl
  | cons word words inductionHypothesis => exact inductionHypothesis.cons stands word

/-- An option in front of other arguments changes their request as it changes what is given. -/
theorem parse_cons (stands : Given.Stands change) {argument : String} {word : Word}
    (means : Means argument word)
    (acts : ∀ words, scan {} .nothing (word :: words) = scan (change {}) .nothing words)
    {changed : Request → Request} (help : changed .help = .help)
    (requests : ∀ given, (change given).request = given.request.map changed)
    (arguments : List String) :
    parse (argument :: arguments) = (parse arguments).map changed := by
  unfold parse
  rw [Word.classifyAll, if_neg means.1, means.2]
  cases Word.classifyAll arguments with
  | error problem => rfl
  | ok words =>
      simp only [bind, Except.bind, pure, Except.pure, acts, scan_change stands words {} .nothing]
      cases scan {} .nothing words with
      | error problem => rfl
      | ok found =>
          cases found with
          | none => exact congrArg Except.ok help.symm
          | some given => exact requests given

end Scan

end ScriptCheck.CommandLine
