import ScriptCheck.Modern.Program
import ScriptCheck.Outcome

/-!
# Checking with the modern grammar

What a run of the modern grammar hands to its caller.
-/

namespace ScriptCheck.Modern

open ScriptCheck.Grammar

/-- A problem as an exception. -/
def Problem.raised (problem : Problem) : Raised :=
  Raised.ofArgument "Error" problem.text
    [("lineNumber", .int problem.line), ("column", .int problem.column)]

/-- The outcome of a run that failed. -/
def Failure.outcome (limits : Limits) : Failure → ModernOutcome
  | .problem found => .refused (Problem.raised found)
  | .headlessTemplate =>
      .broken (Raised.ofArgument "AssertionError"
        "Template literal must start with a template head" [])
  | .tooDeep =>
      .broken (Raised.ofArgument "RecursionError" "maximum recursion depth exceeded" [])
  | .longNumber => .broken (Raised.ofArgument "ValueError" (excessText limits.mostDigits) [])

/-- The outcome of a run that came to the end of the source. -/
def completed (problems : List Problem) : ModernOutcome :=
  .tree (.text "Program") (some (problems.map fun problem => .exception (Problem.raised problem)))

/-- The outcome of a check. A tolerant one hands over the problems that it logged. -/
def outcome (limits : Limits) (source : List Char) (tolerant isModule : Bool) : ModernOutcome :=
  if tolerant then
    match run limits source.toArray isModule with
    | (.ok _, problems) => completed problems
    | (.error failure, _) => failure.outcome limits
  else
    match runStrictly limits source.toArray isModule with
    | .ok _ => completed []
    | .error failure => failure.outcome limits

end ScriptCheck.Modern
