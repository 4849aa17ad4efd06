import ScriptCheck.Record.Basic

/-!
# Results of a check

A check either runs to the end of the source, with the diagnostics it met on the way, or stops at an
error. It has failed when it stopped or met anything.
-/

namespace ScriptCheck

/-- How a check ended. Results made by hand may carry any other value here. -/
inductive Verdict where
  | completed
  | stopped
  | other (value : Value)
  deriving Repr, Inhabited

namespace Verdict

/-- The verdict that a value stands for: one is completed, two is stopped. -/
def ofValue (value : Value) : Verdict :=
  if value.equal (.int 1) then .completed
  else if value.equal (.int 2) then .stopped
  else .other value

/-- Whether the check stopped at an error. -/
def isStopped : Verdict → Bool
  | .stopped => true
  | _ => false

end Verdict

/-- The outcome of a check with its diagnostics in order. -/
structure Result where
  verdict : Verdict
  records : List Record
  deriving Repr, Inhabited

namespace Result

/-- A check that ran to the end. -/
def success (records : List Record) : Result := ⟨.completed, records⟩

/-- A check that stopped at one error. -/
def failure (record : Record) : Result := ⟨.stopped, [record]⟩

/-- Whether anything is wrong with what was checked. -/
def failed (result : Result) : Bool := result.verdict.isStopped || !result.records.isEmpty

end Result

/-- What a run signals to its caller. -/
inductive Signal where
  | success
  | failure
  deriving DecidableEq, Repr

/-- A signal as an exit code. -/
def Signal.code : Signal → Nat
  | .success => 0
  | .failure => 1

end ScriptCheck
