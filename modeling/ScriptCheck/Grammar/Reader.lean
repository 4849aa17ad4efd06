import ScriptCheck.Grammar.Character
import ScriptCheck.Grammar.Token

/-!
# Reading characters

The moves of a cursor through a source, and the gaps between tokens, for every state that has a
source and a cursor. What ends a run is up to the state; here it is known only that a complaint at
the cursor can end it.
-/

namespace ScriptCheck.Grammar

/-- Where a reader of characters stands. -/
structure Cursor where
  index : Nat
  line : Nat
  lineStart : Nat
  deriving DecidableEq, Repr, Inhabited

/-- A state with a source, a cursor in it and the braces that are open, the innermost first; and the
failure that a complaint at the cursor is. -/
class Reading (ε σ : Type) where
  source : σ → Array Char
  cursor : σ → Cursor
  move : Cursor → σ → σ
  braces : σ → List Brace
  nest : List Brace → σ → σ
  failure : Complaint → σ → ε

variable {ε σ : Type} [Reading ε σ]

/-- End the run with a complaint at the cursor. -/
def failAtCursor {α : Type} (complaint : Complaint := Complaint.illegal) : EStateM ε σ α := do
  throw (Reading.failure complaint (← get))

/-- Go on with `step` until it gives an answer. -/
def untilDone {α β : Type} (step : α → EStateM ε σ (α ⊕ β)) : Nat → α → EStateM ε σ β
  | 0, _ => failAtCursor
  | turns + 1, current => do
      match ← step current with
      | .inl next => untilDone step turns next
      | .inr answer => return answer

/-- Go on with `step` until it gives an answer. Every turn but the last reads a character at least,
so there are no more turns than characters and ends. -/
def iterate {α β : Type} (start : α) (step : α → EStateM ε σ (α ⊕ β)) : EStateM ε σ β := do
  untilDone step ((Reading.source ε (← get)).size + 3) start

/-- The cursor. -/
def getCursor : EStateM ε σ Cursor := do return Reading.cursor ε (← get)

/-- Move the cursor. -/
def setCursor (cursor : Cursor) : EStateM ε σ Unit := modify (Reading.move ε cursor)

/-- The braces that are open. -/
def getBraces : EStateM ε σ (List Brace) := do return Reading.braces ε (← get)

/-- Note that a brace opens. -/
def openBrace (brace : Brace) : EStateM ε σ Unit := do
  modify (Reading.nest ε (brace :: (← getBraces)))

/-- Forget the innermost brace. -/
def closeBrace : EStateM ε σ Unit := do
  modify (Reading.nest ε (← getBraces).tail)

/-- Whether the cursor has come to the end of the source. -/
def atEnd : EStateM ε σ Bool := do
  return (Reading.source ε (← get)).size ≤ (← getCursor).index

/-- The character at some distance behind the cursor. Behind the source there are null
characters. -/
def peekAt (distance : Nat) : EStateM ε σ Char := do
  match (Reading.source ε (← get))[(← getCursor).index + distance]? with
  | some character => return character
  | none => return '\x00'

/-- The character at the cursor. -/
def peek : EStateM ε σ Char := peekAt 0

/-- The characters from one index up to another. -/
def slice (start stop : Nat) : EStateM ε σ (List Char) := do
  return ((Reading.source ε (← get)).extract start stop).toList

/-- Move the cursor to an index without changing its line. -/
def moveTo (index : Nat) : EStateM ε σ Unit := do
  let cursor ← getCursor
  setCursor { cursor with index }

/-- Move the cursor forward within a line. -/
def advance (distance : Nat) : EStateM ε σ Unit := do
  moveTo ((← getCursor).index + distance)

/-- Read a character. -/
def take : EStateM ε σ Char := do
  let character ← peek
  advance 1
  return character

/-- Start a new line behind a line end that was read; a carriage return takes a line feed along. -/
def endLine (lineEnd : Char) : EStateM ε σ Unit := do
  if lineEnd = '\r' ∧ (← peek) = '\n' then advance 1
  let cursor ← getCursor
  setCursor ⟨cursor.index, cursor.line + 1, cursor.index⟩

/-- Read characters as long as they satisfy a condition. -/
def takeWhile (condition : Char → Bool) : EStateM ε σ (List Char) := do
  let taken ← iterate [] fun taken => do
    if ← atEnd then return .inr taken
    let character ← peek
    if condition character then
      advance 1
      return .inl (character :: taken)
    return .inr taken
  return taken.reverse

/-- Skip the rest of a line, its end included. -/
def skipLine : EStateM ε σ Unit :=
  iterate () fun _ => do
    if ← atEnd then return .inr ()
    let character ← take
    if isLineEnd character then
      endLine character
      return .inr ()
    return .inl ()

/-- Skip a comment up to its closing mark, or do what is done about one that is never closed. -/
def skipBlockComment (unclosed : EStateM ε σ Unit) : EStateM ε σ Unit :=
  iterate () fun _ => do
    if ← atEnd then
      unclosed
      return .inr ()
    let character ← take
    if isLineEnd character then endLine character
    else if character = '*' ∧ (← peek) = '/' then
      advance 1
      return .inr ()
    return .inl ()

/-- Skip white space and comments. The comments of markup end with the line: one opens anywhere, the
other closes only where nothing but gaps stand before it on its line. `markup` tells whether the
first kind is a comment at all. -/
def skipGap (markup : Bool) (unclosed : EStateM ε σ Unit) : EStateM ε σ Unit := do
  iterate ((← getCursor).index == 0) fun lineIsBlank => do
    if ← atEnd then return .inr ()
    let character ← peek
    if isWhiteSpace character then
      advance 1
      return .inl lineIsBlank
    if isLineEnd character then
      advance 1
      endLine character
      return .inl true
    if character = '/' ∧ (← peekAt 1) = '/' then
      advance 2
      skipLine
      return .inl true
    if character = '/' ∧ (← peekAt 1) = '*' then
      advance 2
      skipBlockComment unclosed
      return .inl lineIsBlank
    if lineIsBlank ∧ character = '-' ∧ (← peekAt 1) = '-' ∧ (← peekAt 2) = '>' then
      advance 3
      skipLine
      return .inl lineIsBlank
    if markup ∧ character = '<' ∧ (← peekAt 1) = '!' ∧ (← peekAt 2) = '-' ∧ (← peekAt 3) = '-' then
      advance 4
      skipLine
      return .inl lineIsBlank
    return .inr ()

end ScriptCheck.Grammar
