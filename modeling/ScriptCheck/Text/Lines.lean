/-!
# Lines and places

A line feed, and nothing else, ends a line here. `lines` cuts a text into its lines, `position` says
where an offset stands. Both see the same lines: `position` counts the line feeds before the offset,
`lines` cuts at each of them.
-/

namespace ScriptCheck.Text

/-- The pieces of a text between its separators. There is always one piece more than separators. -/
def cutAt (separator : Char) (text : List Char) : List (List Char) :=
  text.foldr (fun character cut =>
    if character = separator then [] :: cut
    else match cut with
      | [] => [[character]]
      | first :: others => (character :: first) :: others) [[]]

/-- The lines of a text, the line feeds removed. -/
def lines (text : List Char) : List (List Char) := cutAt '\n' text

/-- A text in which every line ends with a line feed: a carriage return becomes one, together with a
line feed right behind it. -/
def unifyLineEnds : List Char → List Char
  | [] => []
  | '\r' :: '\n' :: rest => '\n' :: unifyLineEnds rest
  | character :: rest => (if character = '\r' then '\n' else character) :: unifyLineEnds rest

/-- A place in a text: both numbers start at one. -/
structure Place where
  line : Nat
  column : Nat
  deriving DecidableEq, Repr

namespace Place

/-- The place of the first character. -/
def first : Place := ⟨1, 1⟩

/-- The place after one more character. -/
def advance (place : Place) (character : Char) : Place :=
  if character = '\n' then ⟨place.line + 1, 1⟩ else ⟨place.line, place.column + 1⟩

end Place

/-- The place of an offset. An offset before the text counts as its start, one past the text as its
end, since `List.take` and `Int.toNat` stop there. -/
def position (text : List Char) (offset : Int) : Place :=
  (text.take offset.toNat).foldl Place.advance Place.first

@[simp] theorem lines_nil : lines [] = [[]] := rfl

/-- A line feed opens a new line. -/
@[simp] theorem lines_newline (rest : List Char) : lines ('\n' :: rest) = [] :: lines rest := by
  simp [lines, cutAt]

/-- No text is without a line. -/
theorem lines_ne_nil (text : List Char) : lines text ≠ [] := by
  cases text with
  | nil => simp
  | cons character rest =>
      simp only [lines, cutAt, List.foldr_cons]
      split
      · simp
      · split <;> simp

end ScriptCheck.Text
