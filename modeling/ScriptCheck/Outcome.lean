import ScriptCheck.Event
import ScriptCheck.Result
import ScriptCheck.Whereabouts

/-!
# From the outcome of a grammar to a result

A grammar may hand back a tree, refuse the source with its own kind of error, or break down. The
functions here turn every such outcome into a result, an event log, or the fault that escapes; they
assume nothing about the grammar, so an outcome may hold any values.
-/

namespace ScriptCheck

/-- What the modern grammar may do with a source. -/
inductive ModernOutcome where
  /-- A tree with its type and, perhaps, the errors that were tolerated. -/
  | tree (type : Value) (errors : Option (List ErrorObject))
  /-- The grammar's own error. -/
  | refused (error : Raised)
  /-- Any other exception. -/
  | broken (error : Raised)
  deriving Repr

/-- How a run of the classic grammar may end. -/
inductive ClassicEnd where
  | tree (type : Value)
  | refused (error : Raised)
  | broken (error : Raised)
  deriving Repr

/-- What the classic grammar may do with a source: how the run ended, and what it left behind. A run
starts afresh, so it knows only the errors that it built itself. -/
structure ClassicOutcome where
  ending : ClassicEnd
  /-- The offset given to the last error that was built, if one was. -/
  errorOffset : Option Value
  lookahead : Value
  index : Value
  deriving Repr

/-- What is left behind by a run, where `earlier` is the offset of the last error before the run. -/
def ClassicOutcome.remains (outcome : ClassicOutcome) (earlier : Value) : Whereabouts where
  errorOffset := outcome.errorOffset.getD earlier
  lookahead := outcome.lookahead
  index := outcome.index

/-- Events in order, and the result or the fault that escaped. -/
structure Logged (α : Type) where
  events : List Event
  outcome : Except Fault α

namespace Logged

/-- The same outcome behind earlier events. -/
def behind {α : Type} (events : List Event) (logged : Logged α) : Logged α :=
  ⟨events ++ logged.events, logged.outcome⟩

end Logged

namespace ModernOutcome

/-- The result of an outcome. A crash has no place of its own, so it is put at the first one. -/
def result (limits : Limits) : ModernOutcome → Logged Result
  | .tree type errors =>
      ⟨[], do
        requireProgram limits type
        let records ← Record.loadAll limits (errors.getD [])
        return .success records⟩
  | .refused error =>
      ⟨[.gaveUp error.text], do
        let record ← Record.load limits (.exception error)
        return .failure record⟩
  | .broken error => ⟨[.crashed .modern], .ok (.failure (Record.ofPlace 1 1 error.headline))⟩

end ModernOutcome

namespace ClassicOutcome

/-- The result of an outcome. Errors are placed by what the run left behind. -/
def result (limits : Limits) (source : List Char) (outcome : ClassicOutcome) : Logged Result :=
  match outcome.ending with
  | .tree type => ⟨[], (requireProgram limits type).map fun _ => .success []⟩
  | .refused error =>
      ⟨[], ((outcome.remains .null).record limits source error).map Result.failure⟩
  | .broken error =>
      ⟨[.crashed .classic], ((outcome.remains .null).record limits source error).map Result.failure⟩

end ClassicOutcome

end ScriptCheck
