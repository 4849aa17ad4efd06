import ScriptCheck.CommandLine.Run

/-!
# The program

Hands the arguments and the files of the system to `CommandLine.run`, and prints what comes back.
-/

namespace ScriptCheck.Program

open ScriptCheck.Files

/-- Why the system could not open a file. Its codes tell the cases apart that its messages name; the
rest counts as not found. -/
def problemOf : IO.Error → FileProblem
  | .inappropriateType _ code _ => if code = 21 then .isDirectory else .notDirectory
  | .invalidArgument _ code _ => if code = 36 then .nameTooLong else .notFound
  | _ => .notFound

/-- Carry out an action on a file. -/
def attempt {α : Type} (action : IO α) : IO (Except FileProblem α) := do
  try
    return .ok (← action)
  catch error => return .error (problemOf error)

/-- Access to the files of the system. -/
def access : FileAccess IO where
  read path := attempt do return (← IO.FS.readBinFile path).toList
  write path octets := attempt (IO.FS.writeBinFile path octets.toByteArray)

end ScriptCheck.Program

open ScriptCheck in
/-- Run the program. A fault has no exit code of its own and counts as a failure. -/
def main (arguments : List String) : IO UInt32 := do
  let ended ← CommandLine.run Program.access (.standard .usual) arguments
  (← IO.getStdout).putStr (String.ofList ended.stdout)
  (← IO.getStderr).putStr (String.ofList ended.stderr)
  match ended.ending with
  | .ok code => return code.toUInt32
  | .error fault =>
      (← IO.getStderr).putStrLn fault.message
      return 1
