import ScriptCheck.Event
import ScriptCheck.Text.Lines
import ScriptCheck.Text.Numerals
import ScriptCheck.Text.Quoted

/-!
# Arguments

An argument is an option, an operand or the separator behind which everything is an operand.
`classify` tells which, `scan` goes through them from left to right, and `parse` makes a request of
them. Options act in the order in which they stand, so a call for help or a problem hides what
stands behind it. Letters behind one dash are taken apart as `argparse` did it up to 3.11.8: a
letter that is no option is an ignored value of the one before it, and an equals sign behind the
first letter leaves the letters behind it to be options.
-/

namespace ScriptCheck.CommandLine

/-- The options of the program. -/
inductive OptionName where
  | help
  | dialect
  | asModule
  | strict
  | dump
  | verbose
  deriving DecidableEq, Repr

namespace OptionName

/-- How options are spelled. -/
def spellings : List (String × OptionName) :=
  [("-h", .help), ("--help", .help), ("--parser", .dialect), ("--module", .asModule),
    ("--strict", .strict), ("--dump", .dump), ("-v", .verbose), ("--verbose", .verbose)]

/-- The option that a letter behind a dash stands for. -/
def ofLetter? (letter : Char) : Option OptionName :=
  spellings.lookup (String.ofList ['-', letter])

/-- Whether an option has a value. -/
def takesValue : OptionName → Bool
  | .dialect | .dump => true
  | _ => false

/-- How messages call an option. -/
def title (name : OptionName) : String :=
  "/".intercalate ((spellings.filter (·.2 == name)).map (·.1))

end OptionName

/-- What can be wrong with arguments. -/
inductive ArgumentProblem where
  | fileMissing
  | unrecognized (arguments : List String)
  | ambiguous (argument : String) (matching : List String)
  | valueMissing (name : OptionName)
  | valueIgnored (name : OptionName) (value : String)
  | dialectUnknown (value : String)
  deriving DecidableEq, Repr

/-- The wording of a problem. -/
def ArgumentProblem.message : ArgumentProblem → String
  | .fileMissing => "the following arguments are required: js"
  | .unrecognized arguments => "unrecognized arguments: " ++ " ".intercalate arguments
  | .ambiguous argument matching =>
      "ambiguous option: " ++ argument ++ " could match " ++ ", ".intercalate matching
  | .valueMissing name => "argument " ++ name.title ++ ": expected one argument"
  | .valueIgnored name value =>
      "argument " ++ name.title ++ ": ignored explicit argument " ++ Text.Quoted.quote value
  | .dialectUnknown value =>
      "argument " ++ OptionName.dialect.title ++ ": invalid choice: " ++
        Text.Quoted.quote value ++ " (choose from 'esprima', 'pyjsparser')"

/-- An argument, with the value that an option carries in the same argument. -/
inductive Word where
  | separator
  | operand (text : String)
  | unknown (text : String)
  | short (name : OptionName) (attached : Option String)
  | long (name : OptionName) (attached : Option String)
  deriving DecidableEq, Repr

namespace Word

/-- The separator as it is written. -/
def separatorText : String := "--"

/-- A text up to its first equals sign, and the text behind it if there is one. -/
def cutValue (text : List Char) : String × Option String :=
  match text.span (· != '=') with
  | (spelling, []) => (String.ofList spelling, none)
  | (spelling, _ :: value) => (String.ofList spelling, some (String.ofList value))

/-- An option by its spelling, which tells whether it is a short one. -/
def ofSpelling (spelling : String) (name : OptionName) (attached : Option String) : Word :=
  if spelling.length = 2 then .short name attached else .long name attached

/-- An argument that starts with a dash but is no option: a number below zero and a text with a
space are operands. -/
def withoutOption (argument : String) : Word :=
  if Text.isNegativeNumber argument.toList || argument.toList.contains ' ' then .operand argument
  else .unknown argument

/-- An argument with two dashes that spells no option. It may be cut short as long as one option
only starts with it. -/
def abbreviated (argument : String) : Except ArgumentProblem Word :=
  let (spelling, attached) := cutValue argument.toList
  match OptionName.spellings.filter fun entry => spelling.toList.isPrefixOf entry.1.toList with
  | [] => .ok (withoutOption argument)
  | [(_, name)] => .ok (.long name attached)
  | entries => .error (.ambiguous argument (entries.map (·.1)))

/-- What an argument is that is not the separator. -/
def classify (argument : String) : Except ArgumentProblem Word :=
  match argument.toList with
  | '-' :: first :: rest =>
      match OptionName.spellings.lookup argument with
      | some name => .ok (ofSpelling argument name none)
      | none =>
          match cutValue argument.toList with
          | (spelling, some value) =>
              match OptionName.spellings.lookup spelling with
              | some name => .ok (ofSpelling spelling name (some value))
              | none => undivided first rest
          | _ => undivided first rest
  | _ => .ok (.operand argument)
where
  /-- An argument that has no whole spelling before an equals sign. Behind one dash there may be
  several letters. -/
  undivided (first : Char) (rest : List Char) : Except ArgumentProblem Word :=
    if first = '-' then abbreviated argument
    else match OptionName.ofLetter? first with
      | some name => .ok (.short name (some (String.ofList rest)))
      | none => .ok (withoutOption argument)

/-- What arguments are. Behind the first separator all are operands. -/
def classifyAll : List String → Except ArgumentProblem (List Word)
  | [] => .ok []
  | argument :: arguments =>
      if argument = separatorText then .ok (.separator :: arguments.map .operand)
      else do
        let word ← classify argument
        return word :: (← classifyAll arguments)

end Word

/-- The value of an option. The separator is taken away where it is attached as a value, and leaves
nothing. -/
inductive OptionValue where
  | text (value : String)
  | nothing
  deriving DecidableEq, Repr

/-- What the arguments so far have said. -/
structure Given where
  file : Option String := none
  dialect : OptionValue := .text Dialect.modern.name
  isModule : Bool := false
  strict : Bool := false
  dump : Option OptionValue := none
  verbose : Bool := false
  /-- Arguments that nobody asked for. -/
  extra : List String := []
  deriving DecidableEq, Repr

namespace Given

/-- Add an argument that nobody asked for. -/
def withExtra (given : Given) (argument : String) : Given :=
  { given with extra := given.extra ++ [argument] }

/-- Let options without a value act in order. A call for help ends everything. -/
def withFlags (given : Given) : List OptionName → Option Given
  | [] => some given
  | name :: names =>
      match name with
      | .help => none
      | .asModule => { given with isModule := true }.withFlags names
      | .strict => { given with strict := true }.withFlags names
      | .verbose => { given with verbose := true }.withFlags names
      | .dialect | .dump => given.withFlags names

/-- Let an option with a value act. -/
def withValue (given : Given) (name : OptionName) (value : OptionValue) :
    Except ArgumentProblem Given :=
  match name, value with
  | .dialect, .text text =>
      if (Dialect.ofName? text).isSome then .ok { given with dialect := value }
      else .error (.dialectUnknown text)
  | .dialect, .nothing => .ok { given with dialect := value }
  | .dump, value => .ok { given with dump := some value }
  | _, _ => .ok given

end Given

/-- The options that letters behind a dash stand for, behind the first of them. -/
def cluster (name : OptionName) : List Char → Except ArgumentProblem (List OptionName)
  | [] => .ok [name]
  | letter :: letters =>
      match OptionName.ofLetter? letter with
      | some next => (cluster next letters).map (name :: ·)
      | none => .error (.valueIgnored name (String.ofList (letter :: letters)))

/-- The options that an option without a value stands for, with what is attached to it. Only letters
can be attached, and only to a letter. -/
def flags (name : OptionName) (isShort : Bool) : Option String →
    Except ArgumentProblem (List OptionName)
  | none => .ok [name]
  | some attached =>
      if isShort && !attached.isEmpty then cluster name attached.toList
      else .error (.valueIgnored name attached)

/-- A value as it is attached to an option. -/
def attachedValue (value : String) : OptionValue :=
  if value = Word.separatorText then .nothing else .text value

/-- What the next argument may be apart from anything else: a separator that is dropped because it
stands right behind the file, or the value of an option. -/
inductive Waiting where
  | nothing
  | separator
  | value (name : OptionName)
  deriving DecidableEq, Repr

/-- Go through the arguments. The answer is nothing if help was called for. -/
def scan (given : Given) (waiting : Waiting) : List Word → Except ArgumentProblem (Option Given)
  | [] =>
      match waiting with
      | .value name => .error (.valueMissing name)
      | _ => .ok (some given)
  | word :: words =>
      match waiting, word with
      | .value name, .operand text => do
          let given ← given.withValue name (.text text)
          scan given .nothing words
      | .value name, _ => .error (.valueMissing name)
      | _, .operand text =>
          match given.file with
          | none => scan { given with file := some text } .separator words
          | some _ => scan (given.withExtra text) .nothing words
      | .separator, .separator => scan given .nothing words
      | _, .separator =>
          if given.file.isNone && !words.isEmpty then scan given .nothing words
          else scan (given.withExtra Word.separatorText) .nothing words
      | _, .unknown text => scan (given.withExtra text) .nothing words
      | _, .short name attached => option given name true attached words
      | _, .long name attached => option given name false attached words
where
  /-- Go on behind an option. -/
  option (given : Given) (name : OptionName) (isShort : Bool) (attached : Option String)
      (words : List Word) : Except ArgumentProblem (Option Given) :=
    if name.takesValue then
      match attached with
      | none => scan given (.value name) words
      | some value => do
          let given ← given.withValue name (attachedValue value)
          scan given .nothing words
    else do
      let names ← flags name isShort attached
      match given.withFlags names with
      | none => return none
      | some given => scan given .nothing words

/-- A check that is asked for. -/
structure Invocation where
  file : String
  dialect : OptionValue
  isModule : Bool
  strict : Bool
  dump : Option OptionValue
  verbose : Bool
  deriving DecidableEq, Repr

/-- What the arguments ask for. -/
inductive Request where
  | help
  | check (invocation : Invocation)
  deriving DecidableEq, Repr

/-- The request that arguments make. A file has to be named, and only one. -/
def Given.request (given : Given) : Except ArgumentProblem Request :=
  match given.file with
  | none => .error .fileMissing
  | some file =>
      if !given.extra.isEmpty then .error (.unrecognized given.extra)
      else .ok (.check
        { file, dialect := given.dialect, isModule := given.isModule, strict := given.strict,
          dump := given.dump, verbose := given.verbose })

/-- What arguments ask for. -/
def parse (arguments : List String) : Except ArgumentProblem Request := do
  match ← scan {} .nothing (← Word.classifyAll arguments) with
  | none => return .help
  | some given => given.request

end ScriptCheck.CommandLine
