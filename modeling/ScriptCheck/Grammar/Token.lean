import ScriptCheck.Grammar.Complaint
import ScriptCheck.Grammar.Name
import ScriptCheck.Limits

/-!
# Tokens

The words and signs of a script, and the word lists that tell names from keywords.
-/

namespace ScriptCheck.Grammar

/-- What a token is. -/
inductive TokenKind where
  | boolean
  | endOfFile
  | name
  | keyword
  | null
  | number
  | sign
  | text
  | pattern
  | template
  deriving DecidableEq, Repr, Inhabited

/-- Which brace is open: one of the code, or one of a template. -/
inductive Brace where
  | plain
  | template
  deriving DecidableEq, Repr, Inhabited

/-- A token. Its value is the text that complaints show: the name, the sign, the decimal text of a
number, the characters that a text denotes, or the raw characters of a piece of a template. The line
is the one on which the token ends. -/
structure Token where
  kind : TokenKind
  value : String
  /-- The name that a word is. -/
  name : Name := ⟨[]⟩
  line : Nat
  start : Nat
  stop : Nat
  /-- Whether a number or a text is written with octal digits. -/
  octal : Bool := false
  /-- Whether a piece of a template opens it. -/
  opens : Bool := false
  /-- Whether a piece of a template closes it. -/
  closes : Bool := false
  deriving DecidableEq, Repr, Inhabited

namespace Token

/-- Whether a token is one of some signs. -/
def isSign (token : Token) (signs : List String) : Bool :=
  token.kind == .sign && signs.contains token.value

/-- Whether a token is one of some keywords. -/
def isKeyword (token : Token) (words : List String) : Bool :=
  token.kind == .keyword && words.contains token.value

/-- Whether a token is a name of this spelling. -/
def isNamed (token : Token) (name : String) : Bool :=
  token.kind == .name && token.value == name

/-- Whether a token is a word of any kind, and so may stand behind a point. -/
def isWord (token : Token) : Bool :=
  match token.kind with
  | .name | .keyword | .boolean | .null => true
  | _ => false

/-- Whether a property may begin with a token. -/
def startsProperty (token : Token) : Bool :=
  match token.kind with
  | .name | .keyword | .boolean | .null | .text | .number => true
  | .sign => token.value == "["
  | _ => false

/-- Whether a token is a number that is too long to be shown. -/
def isTooLong (limits : Limits) (token : Token) : Bool :=
  token.kind == .number && !limits.Allows token.value.length

/-- Whether a token has a value that counts as nothing: no characters, or zero. -/
def isBlank (token : Token) : Bool :=
  token.value == "" || (token.kind == .number && token.value == "0")

end Token

/-- The keywords of every script. -/
def keywords : List String :=
  ["if", "in", "do", "var", "for", "new", "try", "let", "this", "else", "case", "void", "with",
    "enum", "while", "break", "catch", "throw", "const", "yield", "class", "super", "return",
    "typeof", "delete", "switch", "export", "import", "default", "finally", "extends", "function",
    "continue", "debugger", "instanceof"]

/-- Keywords that have no use in a script yet. -/
def isFutureReserved (word : String) : Bool :=
  ["enum", "export", "import", "super"].contains word

/-- Names that are reserved in strict code. -/
def isStrictReserved (word : String) : Bool :=
  ["implements", "interface", "package", "private", "protected", "public", "static", "yield",
    "let"].contains word

/-- Names that strict code may not bind. -/
def isRestricted (word : String) : Bool := word == "eval" || word == "arguments"

/-- The kind of a word. No keyword has a single character. -/
def wordKind (word : String) : TokenKind :=
  if keywords.contains word then .keyword
  else if word == "null" then .null
  else if word == "true" || word == "false" then .boolean
  else .name

/-- The signs that assign. -/
def assignmentSigns : List String :=
  ["=", "*=", "**=", "/=", "%=", "+=", "-=", "<<=", ">>=", ">>>=", "&=", "^=", "|="]

/-- The complaint about a token that fits nowhere. In strict code reserved names are told apart. -/
def Token.complaint (token : Token) (strict : Bool) : Complaint :=
  match token.kind with
  | .endOfFile => .unexpectedEnd
  | .name => .unexpectedIdentifier
  | .number => .unexpectedNumber
  | .text => .unexpectedString
  | .template => .unexpectedTemplate token.value
  | .keyword =>
      if isFutureReserved token.value then .unexpectedReserved
      else if strict && isStrictReserved token.value then .strictReservedWord
      else .unexpectedToken token.value
  | _ => .unexpectedToken token.value

end ScriptCheck.Grammar
