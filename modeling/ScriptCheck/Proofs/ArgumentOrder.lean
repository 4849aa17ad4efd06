import ScriptCheck.CommandLine.Run
import ScriptCheck.Proofs.AddedOption

/-!
# The order of arguments

Options and files may be written in any order, and each option in several ways: `Writes` says which,
`Arranged` says how arguments are put together. What a call asks for depends on neither: of options
with a value the last one counts, and an option without a value counts if it is there at all
(`parse_arranged`). A call has to name exactly one file.
-/

namespace ScriptCheck.CommandLine

open Files

/-- What an option asks for. -/
inductive Wish where
  | dialect (dialect : Dialect)
  | asModule
  | strict
  | dump (path : String)
  | verbose
  deriving DecidableEq, Repr

namespace Wish

/-- The option. -/
def name : Wish → OptionName
  | .dialect _ => .dialect
  | .asModule => .asModule
  | .strict => .strict
  | .dump _ => .dump
  | .verbose => .verbose

/-- The value of the option, if it takes one. -/
def value? : Wish → Option String
  | .dialect chosen => some chosen.name
  | .dump path => some path
  | _ => none

/-- The dialect that is asked for. -/
def dialect? : Wish → Option Dialect
  | .dialect chosen => some chosen
  | _ => none

/-- The path of the dump that is asked for. -/
def path? : Wish → Option String
  | .dump path => some path
  | _ => none

end Wish

/-- The ways to write an option. Its long name may be cut short. A value is an argument of its own,
which must not start with a dash, or stands behind an equals sign. -/
inductive Writes : Wish → List String → Prop where
  | letter : Writes .verbose ["-v"]
  | flag {wish : Wish} {spelling : String} (noValue : wish.value? = none)
      (isName : IsLongName wish.name spelling) : Writes wish [spelling]
  | apart {wish : Wish} {spelling value : String} (hasValue : wish.value? = some value)
      (isName : IsLongName wish.name spelling) (noDash : value.toList.head? ≠ some '-') :
      Writes wish [spelling, value]
  | attached {wish : Wish} {spelling value : String} (hasValue : wish.value? = some value)
      (isName : IsLongName wish.name spelling) (named : value ≠ Word.separatorText) :
      Writes wish [spelling ++ "=" ++ value]

/-- Arguments that are made of options and files, in any order. -/
inductive Arranged : List Wish → List String → List String → Prop where
  | nil : Arranged [] [] []
  | option {wish : Wish} {written : List String} {wishes : List Wish}
      {files arguments : List String} (writes : Writes wish written)
      (behind : Arranged wishes files arguments) :
      Arranged (wish :: wishes) files (written ++ arguments)
  | file {file : String} {wishes : List Wish} {files arguments : List String}
      (noDash : file.toList.head? ≠ some '-') (behind : Arranged wishes files arguments) :
      Arranged wishes (file :: files) (file :: arguments)

/-- The check that options ask for. -/
def Invocation.ofWishes (file : String) (wishes : List Wish) : Invocation where
  file := file
  dialect := .text ((wishes.filterMap Wish.dialect?).getLast?.getD .modern).name
  isModule := .asModule ∈ wishes
  strict := .strict ∈ wishes
  dump := (wishes.filterMap Wish.path?).getLast?.map .text
  verbose := .verbose ∈ wishes

namespace Given

/-- What is given behind an option. -/
def withWish (given : Given) : Wish → Given
  | .dialect chosen => { given with dialect := .text chosen.name }
  | .asModule => { given with isModule := true }
  | .strict => { given with strict := true }
  | .dump path => { given with dump := some (.text path) }
  | .verbose => { given with verbose := true }

/-- What is given behind a file. -/
def withFile (given : Given) (file : String) : Given :=
  match given.file with
  | none => { given with file := some file }
  | some _ => given.withExtra file

/-- What is given behind options and files. -/
def behind (given : Given) (wishes : List Wish) (files : List String) : Given where
  file := given.file.or files.head?
  dialect := ((wishes.filterMap Wish.dialect?).getLast?.map fun chosen =>
    .text chosen.name).getD given.dialect
  isModule := given.isModule || .asModule ∈ wishes
  strict := given.strict || .strict ∈ wishes
  dump := ((wishes.filterMap Wish.path?).getLast?.map .text).or given.dump
  verbose := given.verbose || .verbose ∈ wishes
  extra := given.extra ++ given.file.elim files.tail fun _ => files

@[simp] theorem behind_nil (given : Given) : given.behind [] [] = given := by
  have noExtra : (given.file.elim [] fun _ => []) = ([] : List String) := by
    cases given.file <;> rfl
  simp [behind, noExtra]

/-- An option in front of the others is overruled by them. -/
theorem behind_wish (given : Given) (wish : Wish) (wishes : List Wish) (files : List String) :
    (given.withWish wish).behind wishes files = given.behind (wish :: wishes) files := by
  cases wish with
  | dialect chosen =>
      cases last : (wishes.filterMap Wish.dialect?).getLast? <;>
        simp [behind, withWish, Wish.dialect?, Wish.path?, List.getLast?_cons, last]
  | dump path =>
      cases last : (wishes.filterMap Wish.path?).getLast? <;>
        simp [behind, withWish, Wish.dialect?, Wish.path?, List.getLast?_cons, last]
  | asModule | strict | verbose => simp [behind, withWish, Wish.dialect?, Wish.path?]

/-- The first file counts, and nobody asked for the others. -/
theorem behind_file (given : Given) (file : String) (wishes : List Wish) (files : List String) :
    (given.withFile file).behind wishes files = given.behind wishes (file :: files) := by
  cases named : given.file <;> simp [behind, withFile, withExtra, named]

end Given

section Scan

/-- A separator that may be dropped matters only if it is there. -/
theorem scan_separator {words : List Word} (noSeparator : .separator ∉ words) (given : Given) :
    scan given .separator words = scan given .nothing words := by
  cases words with
  | nil => simp only [scan]
  | cons word words =>
      cases word with
      | separator => exact absurd List.mem_cons_self noSeparator
      | operand | unknown | short | long =>
          rw [scan.eq_def given .separator, scan.eq_def given .nothing]

/-- A file is taken where no option waits for its value. -/
theorem scan_file {words : List Word} (noSeparator : .separator ∉ words) (given : Given)
    (file : String) :
    scan given .nothing (.operand file :: words) = scan (given.withFile file) .nothing words := by
  rw [scan.eq_def, Given.withFile]
  cases given.file with
  | none => exact scan_separator noSeparator _
  | some _ => rfl

/-- An option without a value acts at once. -/
theorem scan_flag {wish : Wish} (noValue : wish.value? = none) (given : Given)
    (words : List Word) :
    scan given .nothing (.long wish.name none :: words) =
      scan (given.withWish wish) .nothing words := by
  rw [scan_long, scan.option]
  cases wish with
  | dialect | dump => cases noValue
  | asModule | strict | verbose => rfl

/-- An option with a value acts when it is known. -/
theorem withValue_wish {wish : Wish} {value : String} (hasValue : wish.value? = some value)
    (given : Given) : given.withValue wish.name (.text value) = .ok (given.withWish wish) := by
  cases wish with
  | dialect chosen =>
      cases hasValue
      simp [Given.withValue, Wish.name, Given.withWish, Dialect.ofName?_name]
  | dump path =>
      cases hasValue
      rfl
  | asModule | strict | verbose => cases hasValue

theorem takesValue_wish {wish : Wish} {value : String} (hasValue : wish.value? = some value) :
    wish.name.takesValue = true := by
  cases wish with
  | dialect | dump => rfl
  | asModule | strict | verbose => cases hasValue

/-- However an option is written, it acts, and all behind it is left. -/
theorem scan_writes {wish : Wish} {written : List String} (writes : Writes wish written) :
    ∃ words, List.Forall₂ Means written words ∧ .separator ∉ words ∧
      ∀ given others, scan given .nothing (words ++ others) =
        scan (given.withWish wish) .nothing others := by
  cases writes with
  | letter =>
      refine ⟨[.short .verbose none], .cons ⟨by decide, by decide⟩ .nil, by simp, ?_⟩
      intro given others
      rw [List.singleton_append, scan_short, scan.option]
      rfl
  | @flag _ spelling noValue isName =>
      exact ⟨[.long wish.name none], .cons (means_longName isName) .nil, by simp,
        fun given others => scan_flag noValue given others⟩
  | @apart _ spelling value hasValue isName noDash =>
      refine ⟨[.long wish.name none, .operand value],
        .cons (means_longName isName) (.cons (means_operand noDash) .nil), by simp, ?_⟩
      intro given others
      rw [List.cons_append, scan_long, scan.option, if_pos (takesValue_wish hasValue)]
      rw [List.singleton_append, scan.eq_def]
      simp only [withValue_wish hasValue]
      rfl
  | @attached _ spelling value hasValue isName named =>
      refine ⟨[.long wish.name (some value)], .cons (means_attached isName value) .nil, by simp, ?_⟩
      intro given others
      rw [List.singleton_append, scan_long, scan.option, if_pos (takesValue_wish hasValue)]
      simp only [attachedValue, if_neg named, withValue_wish hasValue]
      rfl

/-- Whatever the order of options and files is, each of them acts. -/
theorem scan_arranged {wishes : List Wish} {files arguments : List String}
    (arranged : Arranged wishes files arguments) :
    ∃ words, List.Forall₂ Means arguments words ∧ .separator ∉ words ∧
      ∀ given, scan given .nothing words = .ok (some (given.behind wishes files)) := by
  induction arranged with
  | nil => exact ⟨[], .nil, by simp, fun given => by simp only [scan, Given.behind_nil]⟩
  | option writes _ inductionHypothesis =>
      obtain ⟨words, means, noSeparator, scanned⟩ := scan_writes writes
      obtain ⟨others, otherMeans, noOther, otherScanned⟩ := inductionHypothesis
      refine ⟨words ++ others, List.rel_append means otherMeans, by simp [noSeparator, noOther],
        fun given => ?_⟩
      rw [scanned, otherScanned, Given.behind_wish]
  | @file file _ _ _ noDash _ inductionHypothesis =>
      obtain ⟨others, otherMeans, noOther, otherScanned⟩ := inductionHypothesis
      refine ⟨.operand file :: others, .cons (means_operand noDash) otherMeans, by simp [noOther],
        fun given => ?_⟩
      rw [scan_file noOther, otherScanned, Given.behind_file]

end Scan

/-- What arguments mean depends on their options and files alone. -/
theorem parse_arranged {wishes : List Wish} {files arguments : List String}
    (arranged : Arranged wishes files arguments) :
    parse arguments =
      match files with
      | [] => .error .fileMissing
      | [file] => .ok (.check (.ofWishes file wishes))
      | _ :: others => .error (.unrecognized others) := by
  obtain ⟨words, means, -, scanned⟩ := scan_arranged arranged
  have classified : Word.classifyAll arguments = .ok words := by
    have none : Word.classifyAll [] = .ok [] := rfl
    have all := classifyAll_append means none
    rwa [List.append_nil, List.append_nil] at all
  unfold parse
  simp only [classified, bind, Except.bind, scanned]
  rcases files with _ | ⟨file, _ | ⟨other, others⟩⟩
  · rfl
  · cases last : (wishes.filterMap Wish.dialect?).getLast? <;>
      simp [Given.request, Given.behind, Invocation.ofWishes, last]
  · rfl

/-- The order of arguments and the spelling of options do not matter. With one file, wherever it
stands, the options ask for a check of it: of options with a value the last one counts, and the
others count if they are given at all. Without a file, or with more than one, the call is refused
before it reads anything. -/
theorem order_harmless {wishes : List Wish} {files arguments : List String}
    (arranged : Arranged wishes files arguments) :
    (∀ file, files = [file] →
      parse arguments = .ok (.check (Invocation.ofWishes file wishes))) ∧
    (files.length ≠ 1 → ∃ problem : ArgumentProblem, parse arguments = .error problem ∧
      (refused problem.message).ending = .ok 2 ∧
      ∀ {m : Type → Type} [Monad m] (access : FileAccess m) (grammars : Grammars),
        run access grammars arguments = pure (refused problem.message)) := by
  have parsed := parse_arranged arranged
  constructor
  · rintro file rfl
    exact parsed
  · intro notOne
    have refuses : ∃ problem, parse arguments = .error problem := by
      rcases files with _ | ⟨file, _ | ⟨other, others⟩⟩
      · exact ⟨_, parsed⟩
      · exact absurd rfl notOne
      · exact ⟨_, parsed⟩
    obtain ⟨problem, isProblem⟩ := refuses
    refine ⟨problem, isProblem, rfl, fun access grammars => ?_⟩
    unfold run
    rw [isProblem]

/-- A file between options that come twice and are cut short. -/
theorem dialect_overruled :
    parse ["--d=x y", "--pars", "pyjsparser", "a=b.js", "-v", "--m", "--dump", "",
      "--parser=esprima"] =
      .ok (.check ⟨"a=b.js", .text "esprima", true, false, some (.text ""), true⟩) := by
  have arranged : Arranged [.dump "x y", .dialect .classic, .verbose, .asModule, .dump "",
      .dialect .modern] ["a=b.js"] (["--d" ++ "=" ++ "x y"] ++ (["--pars", "pyjsparser"] ++
        ("a=b.js" :: (["-v"] ++ (["--m"] ++ (["--dump", ""] ++
          (["--parser" ++ "=" ++ "esprima"] ++ []))))))) :=
    .option (.attached rfl ⟨by decide, "--dump", by decide, by decide⟩ (by decide)) <|
    .option (.apart rfl ⟨by decide, "--parser", by decide, by decide⟩ (by decide)) <|
    .file (by decide) <|
    .option .letter <|
    .option (.flag rfl ⟨by decide, "--module", by decide, by decide⟩) <|
    .option (.apart rfl ⟨by decide, "--dump", by decide, by decide⟩ (by decide)) <|
    .option (.attached rfl ⟨by decide, "--parser", by decide, by decide⟩ (by decide)) .nil
  exact (order_harmless arranged).1 "a=b.js" rfl

end ScriptCheck.CommandLine
