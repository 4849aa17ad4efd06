import ScriptCheck.Text.Lines

/-!
# Paths

A path is cut at its slashes into names. Following them leads from the working directory, or from
the root, to a location.
-/

namespace ScriptCheck.Files

/-- Why a file cannot be opened. -/
inductive FileProblem where
  | notFound
  | isDirectory
  | notDirectory
  | nameTooLong
  deriving DecidableEq, Repr

/-- The wording of a file's problem. -/
def FileProblem.reason : FileProblem → String
  | .notFound => "No such file or directory"
  | .isDirectory => "Is a directory"
  | .notDirectory => "Not a directory"
  | .nameTooLong => "File name too long"

/-- Where something is: names below the working directory, the innermost first. Double dots lead to
what holds the working directory, and a slash to the root. -/
abbrev Location := List String

namespace Location

/-- The location that holds a location. The root holds itself. -/
def up : Location → Location
  | [] => [".."]
  | ".." :: names => ".." :: ".." :: names
  | ["/"] => ["/"]
  | _ :: names => names

/-- Whether a location is a directory whatever files there are: the working directory, what holds
it, and the root. -/
def isGiven (location : Location) : Bool :=
  location.all (· == "..") || location == ["/"]

end Location

/-- A path: where it starts, the names in it, and whether a slash ends it. -/
structure Path where
  start : Location
  names : List String
  endsWithSlash : Bool
  deriving DecidableEq, Repr

namespace Path

/-- The number of octets that a path may have. -/
def lengthLimit : Nat := 4095

/-- The number of octets that a name may have. -/
def nameLimit : Nat := 255

/-- The path of a text. Repeated slashes count as one. -/
def ofText (text : String) : Path :=
  let pieces := Text.cutAt '/' text.toList
  { start := if text.toList.head? = some '/' then ["/"] else []
    names := (pieces.filter (!·.isEmpty)).map String.ofList
    endsWithSlash := (pieces.getLast?.getD []).isEmpty }

end Path

end ScriptCheck.Files
