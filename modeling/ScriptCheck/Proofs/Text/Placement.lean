import Mathlib.Algebra.GroupWithZero.Nat
import Mathlib.Data.List.Induction
import ScriptCheck.Text.Lines

/-!
# Where offsets stand

`Text.position` counts line feeds before an offset, `Text.lines` cuts a text at all of them. This
module shows that both see the same lines. `lines_append` says how a cut in two parts runs through
one line, `position_eq` reads the place of an offset off the lines before it, and
`position_standsAt` gathers what a place is: a line of the text, a column in it or right behind it,
and the offset that the two together are.
-/

namespace ScriptCheck.Text

/-- The line of a number, where the first line has number one. -/
def lineAt (text : List Char) (number : Nat) : List Char := ((lines text)[number - 1]?).getD []

/-- The offset at which the line of a number starts: each line before it has a line feed behind
it. -/
def lineStart (text : List Char) (number : Nat) : Nat :=
  (((lines text).take (number - 1)).map fun line => line.length + 1).sum

/-- A place is a place of the text, and it is that of an offset. -/
structure StandsAt (text : List Char) (offset : Nat) (place : Place) : Prop where
  line_pos : 1 ≤ place.line
  line_le : place.line ≤ (lines text).length
  column_pos : 1 ≤ place.column
  column_le : place.column ≤ (lineAt text place.line).length + 1
  offset_eq : lineStart text place.line + (place.column - 1) = offset

/-- The offset that stands for another one: the start of the text for what lies before it, the end
for what lies behind it. -/
def clamp (text : List Char) (offset : Int) : Nat := min offset.toNat text.length

theorem clamp_le (text : List Char) (offset : Int) : clamp text offset ≤ text.length :=
  Nat.min_le_right _ _

/-- A text has a line. -/
theorem lines_length_pos (text : List Char) : 0 < (lines text).length :=
  List.length_pos_iff.2 (lines_ne_nil text)

/-- A character that is no line feed joins the first line. -/
theorem lines_cons {character : Char} (noBreak : character ≠ '\n') (rest : List Char) :
    lines (character :: rest) =
      (character :: (lines rest).head (lines_ne_nil rest)) :: (lines rest).tail := by
  obtain ⟨first, others, cut⟩ := List.exists_cons_of_ne_nil (lines_ne_nil rest)
  have stepped : lines (character :: rest) = (character :: first) :: others := by
    simp only [lines, cutAt, List.foldr_cons, if_neg noBreak] at cut ⊢
    rw [cut]
  simp [stepped, cut]

/-- A text has one line more than line feeds. -/
theorem length_lines (text : List Char) : (lines text).length = text.count '\n' + 1 := by
  induction text with
  | nil => rfl
  | cons character rest inductionHypothesis =>
      by_cases isFeed : character = '\n'
      · rw [isFeed, lines_newline, List.length_cons, inductionHypothesis, List.count_cons_self]
      · rw [lines_cons isFeed, List.length_cons, List.length_tail, inductionHypothesis,
          List.count_cons_of_ne isFeed, Nat.add_sub_cancel]

/-- A place is on a line that no longer text than its own would have. -/
theorem StandsAt.line_le_length {text : List Char} {offset : Nat} {place : Place}
    (stands : StandsAt text offset place) : place.line ≤ text.length + 1 := by
  have feeds_le : text.count '\n' ≤ text.length := List.count_le_length
  have line_le := stands.line_le
  rw [length_lines] at line_le
  omega

/-- A place is no further behind the start of its line than its offset behind that of the text. -/
theorem StandsAt.column_le_offset {text : List Char} {offset : Nat} {place : Place}
    (stands : StandsAt text offset place) : place.column ≤ offset + 1 := by
  have total := stands.offset_eq
  omega

/-- Where two texts meet, the last line of the one and the first line of the other are one line. -/
theorem lines_append (before after : List Char) :
    lines (before ++ after) =
      (lines before).dropLast ++
        ((lines before).getLast (lines_ne_nil before) ++
          (lines after).head (lines_ne_nil after)) :: (lines after).tail := by
  induction before with
  | nil => simp
  | cons character rest inductionHypothesis =>
      by_cases isBreak : character = '\n'
      · subst isBreak
        simp only [List.cons_append, lines_newline, inductionHypothesis]
        rw [List.dropLast_cons_of_ne_nil (lines_ne_nil rest), List.getLast_cons (lines_ne_nil rest)]
        rfl
      · obtain ⟨first, others, cut⟩ := List.exists_cons_of_ne_nil (lines_ne_nil rest)
        simp only [List.cons_append, lines_cons isBreak, inductionHypothesis, cut]
        cases others with
        | nil => simp
        | cons second others => simp

/-- A line feed between two texts keeps their lines apart. -/
theorem lines_append_feed (before after : List Char) :
    lines (before ++ '\n' :: after) = lines before ++ lines after := by
  rw [lines_append]
  simp only [lines_newline, List.head_cons, List.tail_cons, List.append_nil]
  rw [List.append_cons, List.dropLast_concat_getLast]

/-- A text without line feeds joins the first line of what stands behind it. -/
theorem lines_append_line {line : List Char} (noBreak : '\n' ∉ line) (rest : List Char) :
    lines (line ++ rest) =
      (line ++ (lines rest).head (lines_ne_nil rest)) :: (lines rest).tail := by
  induction line with
  | nil => simp
  | cons character line inductionHypothesis =>
      rw [List.mem_cons, not_or] at noBreak
      rw [List.cons_append, lines_cons (Ne.symm noBreak.1)]
      simp only [inductionHypothesis noBreak.2, List.head_cons, List.tail_cons, List.cons_append]

/-- A line holds no line feed. -/
theorem newline_not_mem_of_mem_lines {text line : List Char} (isLine : line ∈ lines text) :
    '\n' ∉ line := by
  induction text generalizing line with
  | nil => simp_all
  | cons character rest inductionHypothesis =>
      by_cases isBreak : character = '\n'
      · subst isBreak
        rcases List.mem_cons.1 (lines_newline rest ▸ isLine) with rfl | later
        · simp
        · exact inductionHypothesis later
      · rw [lines_cons isBreak] at isLine
        rcases List.mem_cons.1 isLine with rfl | later
        · have first := inductionHypothesis (List.head_mem (lines_ne_nil rest))
          simp [first, Ne.symm isBreak]
        · exact inductionHypothesis (List.mem_of_mem_tail later)

/-- A text without line feeds is the first line if a line feed stands behind it. -/
theorem lines_append_newline {line : List Char} (noBreak : '\n' ∉ line) (rest : List Char) :
    lines (line ++ '\n' :: rest) = line :: lines rest := by
  rw [lines_append_line noBreak]
  simp only [lines_newline, List.head_cons, List.tail_cons, List.append_nil]

/-- The lines with line feeds between them are the text. -/
theorem intercalate_lines (text : List Char) : ['\n'].intercalate (lines text) = text := by
  induction text with
  | nil => rfl
  | cons character rest inductionHypothesis =>
      obtain ⟨first, others, cut⟩ := List.exists_cons_of_ne_nil (lines_ne_nil rest)
      rw [cut] at inductionHypothesis
      by_cases isBreak : character = '\n'
      · subst isBreak
        rw [lines_newline, cut, List.intercalate_cons_cons, inductionHypothesis]
        rfl
      · have joined : ['\n'].intercalate ((character :: first) :: others) =
            character :: ['\n'].intercalate (first :: others) := by
          cases others <;> simp [List.intercalate_cons_cons]
        rw [lines_cons isBreak]
        simp only [cut, List.head_cons, List.tail_cons]
        rw [joined, inductionHypothesis]

/-- Lines with a line feed behind each of them are found again, and an empty one behind the last. -/
theorem lines_flatMap {pieces : List (List Char)} (noBreaks : ∀ piece ∈ pieces, '\n' ∉ piece) :
    lines (pieces.flatMap fun piece => piece ++ ['\n']) = pieces ++ [[]] := by
  induction pieces with
  | nil => rfl
  | cons piece pieces inductionHypothesis =>
      have others := inductionHypothesis fun other later =>
        noBreaks other (List.mem_cons_of_mem _ later)
      rw [List.flatMap_cons, List.append_assoc, List.singleton_append,
        lines_append_newline (noBreaks piece List.mem_cons_self), others, List.cons_append]

/-- The lines and the line feeds between them make up the text. -/
theorem sum_lines (text : List Char) :
    ((lines text).map fun line => line.length + 1).sum = text.length + 1 := by
  induction text with
  | nil => simp
  | cons character rest inductionHypothesis =>
      by_cases isBreak : character = '\n'
      · subst isBreak
        simp [inductionHypothesis]
        omega
      · obtain ⟨first, others, cut⟩ := List.exists_cons_of_ne_nil (lines_ne_nil rest)
        rw [lines_cons isBreak]
        simp [cut] at inductionHypothesis ⊢
        omega

/-- The place behind a text is behind the last of its lines. -/
theorem foldl_advance (text : List Char) :
    text.foldl Place.advance Place.first =
      ⟨(lines text).length, ((lines text).getLast (lines_ne_nil text)).length + 1⟩ := by
  induction text using List.reverseRecOn with
  | nil => rfl
  | append_singleton before last inductionHypothesis =>
      rw [List.foldl_append, inductionHypothesis]
      have nonempty := lines_length_pos before
      by_cases isBreak : last = '\n'
      · subst isBreak
        simp [Place.advance, lines_append]
        omega
      · simp [Place.advance, lines_append, lines_cons isBreak, isBreak]
        omega

/-- The place of an offset is behind the last of the lines before it. -/
theorem position_eq (before after : List Char) :
    position (before ++ after) before.length =
      ⟨(lines before).length, ((lines before).getLast (lines_ne_nil before)).length + 1⟩ := by
  simp [position, foldl_advance]

/-- An offset and the one that stands for it have one place. -/
theorem position_clamp (text : List Char) (offset : Int) :
    position text (clamp text offset) = position text offset := by
  have taken : text.take (clamp text offset) = text.take offset.toNat :=
    (List.take_eq_take_min (i := offset.toNat)).symm
  rw [position, position, Int.toNat_natCast, taken]

/-- The line on which two texts meet. -/
theorem lineAt_append (before after : List Char) :
    lineAt (before ++ after) (lines before).length =
      (lines before).getLast (lines_ne_nil before) ++ (lines after).head (lines_ne_nil after) := by
  have nonempty := lines_length_pos before
  simp [lineAt, lines_append]

/-- The line on which two texts meet starts where the last line of the first one does. -/
theorem lineStart_append (before after : List Char) :
    lineStart (before ++ after) (lines before).length +
      ((lines before).getLast (lines_ne_nil before)).length = before.length := by
  have total := sum_lines before
  rw [← List.dropLast_concat_getLast (lines_ne_nil before)] at total
  have cut : ((lines (before ++ after)).take ((lines before).length - 1)) =
      (lines before).dropLast := by
    rw [lines_append, ← List.length_dropLast]
    exact List.take_left
  simp [lineStart, cut] at total ⊢
  omega

/-- The place of an offset within a text is a place of the text, and the offset's own. -/
theorem position_standsAt {text : List Char} {offset : Nat} (within : offset ≤ text.length) :
    StandsAt text offset (position text offset) := by
  obtain ⟨before, after, rfl, rfl⟩ : ∃ before after, text = before ++ after ∧
      offset = before.length :=
    ⟨text.take offset, text.drop offset, (List.take_append_drop _ _).symm, by simp [within]⟩
  rw [position_eq]
  have nonempty := lines_length_pos before
  refine ⟨nonempty, ?_, by simp, ?_, ?_⟩
  · rw [lines_append]
    simp
    omega
  · rw [lineAt_append]
    simp
  · simpa using lineStart_append before after

/-- The offset that stands for any other has a place in the text. -/
theorem position_standsAt_clamp (text : List Char) (offset : Int) :
    StandsAt text (clamp text offset) (position text offset) :=
  position_clamp text offset ▸ position_standsAt (clamp_le text offset)

/-- What stands at the column of an offset is what stands at the offset; the end of a line has no
character there. -/
theorem lineAt_position {text : List Char} {offset : Nat} (within : offset ≤ text.length) :
    (lineAt text (position text offset).line)[(position text offset).column - 1]? =
      text[offset]?.filter (· ≠ '\n') := by
  obtain ⟨before, after, rfl, rfl⟩ : ∃ before after, text = before ++ after ∧
      offset = before.length :=
    ⟨text.take offset, text.drop offset, (List.take_append_drop _ _).symm, by simp [within]⟩
  rw [position_eq, lineAt_append]
  cases after with
  | nil => simp
  | cons character rest =>
      by_cases isBreak : character = '\n'
      · simp [isBreak, Option.filter_some]
      · simp [lines_cons isBreak, isBreak, Option.filter_some]

/-- Behind the text and at a line feed, an offset stands behind the last character of its line. -/
theorem column_position {text : List Char} {offset : Nat} (within : offset ≤ text.length)
    (atEnd : ∀ character, text[offset]? = some character → character = '\n') :
    (position text offset).column = (lineAt text (position text offset).line).length + 1 := by
  have stands := position_standsAt within
  have nothing : (lineAt text (position text offset).line)[(position text offset).column - 1]? =
      none := by
    rw [lineAt_position within]
    cases found : text[offset]? with
    | none => rfl
    | some character => simp [atEnd character found]
  have behind := List.getElem?_eq_none_iff.1 nothing
  have column_le := stands.column_le
  have column_pos := stands.column_pos
  omega

end ScriptCheck.Text
