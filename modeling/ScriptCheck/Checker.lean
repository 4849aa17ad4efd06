import ScriptCheck.Classic.Check
import ScriptCheck.Modern.Check

/-!
# Checking sources

A check chooses a grammar by name, logs what it does, and turns the outcome of the grammar into a
result. The grammars are handed over, so that what is said about checks holds for any grammars.
-/

namespace ScriptCheck

/-- How a source is checked. -/
structure Setting where
  /-- Whether to go on after an error if the grammar can. -/
  tolerant : Bool := true
  /-- Whether the source is a module. -/
  isModule : Bool := false
  deriving DecidableEq, Repr

/-- The two grammars, by what they make of a source, and the limits of the machine that they run
on. -/
structure Grammars where
  limits : Limits
  modern : List Char → Setting → ModernOutcome
  classic : List Char → ClassicOutcome

namespace Grammars

/-- The grammars of this library, on a machine with some limits. -/
def standard (limits : Limits) : Grammars where
  limits := limits
  modern source setting := Modern.outcome limits source setting.tolerant setting.isModule
  classic := Classic.outcome limits

variable (grammars : Grammars)

/-- What is logged before the classic grammar runs, which knows no settings. -/
def classicNotes (setting : Setting) : List Event :=
  (if setting.isModule then [.moduleIgnored] else []) ++
    (if setting.tolerant then [.neverTolerant] else [])

/-- Check a source with a dialect. -/
def checkWith (source : List Char) (setting : Setting) (dialect : Dialect) : Logged Result :=
  let opening := Event.checking source.length dialect
  match dialect with
  | .modern => ((grammars.modern source setting).result grammars.limits).behind [opening]
  | .classic =>
      ((grammars.classic source).result grammars.limits source).behind
        (opening :: classicNotes setting)

/-- Check a source with the dialect of a name. -/
def check (source : List Char) (setting : Setting) (name : String) : Logged Result :=
  match Dialect.ofName? name with
  | some dialect => grammars.checkWith source setting dialect
  | none => ⟨[], .error (.unknownGrammar name)⟩

/-- Check sources in turn with one classic grammar that forgets everything between them but the
offset of the last error. The answer tells how each run ended and what it left behind. -/
def rerun (earlier : Value) : List (List Char) → List (ClassicEnd × Whereabouts)
  | [] => []
  | source :: sources =>
      let outcome := grammars.classic source
      let remains := outcome.remains earlier
      (outcome.ending, remains) :: rerun remains.errorOffset sources

end Grammars

end ScriptCheck
