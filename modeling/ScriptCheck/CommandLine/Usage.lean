/-!
# Usage

The texts that tell how the program is called.
-/

namespace ScriptCheck.CommandLine

/-- How the program is called. -/
def usage : String :=
  "usage: jsvalidate [-h] [--parser \x7besprima,pyjsparser\x7d] [--module] [--strict]\n" ++
    "                  [--dump PATH] [-v]\n" ++
    "                  js\n"

/-- What the arguments of the program mean. -/
def help : String :=
  usage ++
    "\n" ++
    "Checks a javascript file for syntax errors\n" ++
    "\n" ++
    "positional arguments:\n" ++
    "  js                    a js file\n" ++
    "\n" ++
    "options:\n" ++
    "  -h, --help            show this help message and exit\n" ++
    "  --parser \x7besprima,pyjsparser\x7d\n" ++
    "                        parser backend (default: esprima)\n" ++
    "  --module              parse as an ES module instead of a script\n" ++
    "  --strict              stop at the first syntax error\n" ++
    "  --dump PATH           also write the errors as yaml to PATH\n" ++
    "  -v, --verbose         debug logging\n"

/-- A complaint about a call, below the usage. -/
def complaint (message : String) : String := usage ++ "jsvalidate: error: " ++ message ++ "\n"

end ScriptCheck.CommandLine
