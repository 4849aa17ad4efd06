import ScriptCheck.Proofs.Text.Placement
import ScriptCheck.Proofs.Yaml.Scalar

/-!
# Scalars on several lines

A scalar goes on behind a line end where it is folded or holds line feeds. Whatever its style is,
each line on which it goes on is empty or further in than what holds the scalar:
`goesOnIn_write`.
-/

namespace ScriptCheck.Yaml

open Text

/-- A line is empty, or starts with an indentation. -/
def IsFurtherIn (indent : Nat) (line : List Char) : Prop :=
  line = [] ∨ List.replicate indent ' ' <+: line

/-- A text goes on with lines that are further in. -/
def GoesOnIn (indent : Nat) (text : List Char) : Prop :=
  ∀ line ∈ (lines text).tail, IsFurtherIn indent line

section Lines

variable {indent : Nat} {before rest : List Char} {character : Char}

/-- What stands in front of a text on its first line does not matter. -/
theorem goesOnIn_append (oneLine : '\n' ∉ before) :
    GoesOnIn indent (before ++ rest) ↔ GoesOnIn indent rest := by
  rw [GoesOnIn, lines_append_line oneLine]
  rfl

theorem goesOnIn_cons (notEnd : character ≠ '\n') :
    GoesOnIn indent (character :: rest) ↔ GoesOnIn indent rest := by
  have oneLine : '\n' ∉ [character] := by simpa using notEnd.symm
  exact goesOnIn_append oneLine

/-- Behind a line end the first line counts as well. -/
theorem goesOnIn_lineFeed :
    GoesOnIn indent ('\n' :: rest) ↔
      IsFurtherIn indent ((lines rest).head (lines_ne_nil rest)) ∧ GoesOnIn indent rest := by
  rw [GoesOnIn, lines_newline, List.tail_cons, GoesOnIn, ← List.forall_mem_cons,
    List.cons_head_tail]

/-- An empty line may stand in front of a text that goes on. -/
theorem goesOnIn_emptyLine (goesOn : GoesOnIn indent ('\n' :: rest)) :
    GoesOnIn indent ('\n' :: '\n' :: rest) :=
  goesOnIn_lineFeed.mpr ⟨.inl (by simp), goesOn⟩

/-- A text goes on behind a new line. -/
theorem goesOnIn_newLine (goesOn : GoesOnIn indent rest) :
    GoesOnIn indent (newLine indent ++ rest) := by
  have blank : '\n' ∉ List.replicate indent ' ' := by simp
  rw [newLine, List.cons_append, goesOnIn_lineFeed, goesOnIn_append blank]
  simp only [lines_append_line blank, List.head_cons]
  exact ⟨.inr (List.prefix_append _ _), goesOn⟩

end Lines

section Styles

variable {width : Option Nat} {indent column : Nat} {text : List Char}

theorem goesOnIn_plainFrom (oneLine : '\n' ∉ text) (behindSpace : Bool) :
    GoesOnIn indent (plainFrom width indent column behindSpace text) := by
  induction text generalizing column behindSpace with
  | nil => simp [plainFrom, GoesOnIn]
  | cons character rest inductionHypothesis =>
      rw [List.mem_cons, not_or] at oneLine
      rw [plainFrom]
      split
      next => exact goesOnIn_newLine (inductionHypothesis oneLine.2 true)
      next =>
        exact (goesOnIn_cons (Ne.symm oneLine.1)).mpr (inductionHypothesis oneLine.2 _)

/-- Behind a line feed of a text the next line is indented, unless it is empty. -/
theorem goesOnIn_afterLineFeed {rest : List Char}
    (goesOn : GoesOnIn indent (singleFrom width indent column (some '\n') rest)) :
    GoesOnIn indent ('\n' :: ((if rest.head? = some '\n' then [] else List.replicate indent ' ') ++
      singleFrom width indent column (some '\n') rest)) := by
  split
  next lineFeed =>
    obtain ⟨others, rfl⟩ := List.head?_eq_some_iff.mp lineFeed
    rw [singleFrom, if_neg (by decide), if_pos rfl] at goesOn ⊢
    exact goesOnIn_emptyLine goesOn
  next => exact goesOnIn_newLine goesOn

theorem goesOnIn_singleFrom (previous : Option Char) :
    GoesOnIn indent (singleFrom width indent column previous text) := by
  induction text generalizing column previous with
  | nil => simp [singleFrom, GoesOnIn, lines_cons]
  | cons character rest inductionHypothesis =>
      rw [singleFrom]
      split
      next =>
        rw [goesOnIn_cons (by decide), goesOnIn_cons (by decide)]
        exact inductionHypothesis _
      next =>
        split
        next lineFeed =>
          have behind := goesOnIn_afterLineFeed (@inductionHypothesis indent (some '\n'))
          subst lineFeed
          rw [List.append_assoc]
          split
          next => exact behind
          next => exact goesOnIn_emptyLine behind
        next notEnd =>
          split
          next => exact goesOnIn_newLine (inductionHypothesis _)
          next => exact (goesOnIn_cons notEnd).mpr (inductionHypothesis _)

/-- An escape is on one line. -/
theorem newline_not_mem_escape (character : Char) : '\n' ∉ escape character := by
  have digits (width : Nat) : '\n' ∉ hexDigits .upper width character.toNat := fun mem =>
    absurd (List.all_eq_true.mp (all_isHexDigit_hexDigits .upper width character.toNat) _ mem)
      (by decide)
  unfold escape
  split
  next letter short =>
    have notEnd := (Reader.lookup_escapeLetter? short).1
    simpa using notEnd.symm
  next =>
    dsimp only
    split
    next => simp [digits]
    next => split <;> simp [digits]

/-- A text goes on behind a new line that a backslash stands in front of. -/
theorem goesOnIn_backslashLine {rest : List Char} (goesOn : GoesOnIn indent rest) :
    GoesOnIn indent ('\\' :: newLine indent ++ rest) :=
  (goesOnIn_cons (by decide)).mpr (goesOnIn_newLine goesOn)

theorem goesOnIn_doubleFrom (atStart fresh : Bool) :
    GoesOnIn indent (doubleFrom width indent column atStart fresh text) := by
  have isBackslash : '\\' ≠ '\n' := by decide
  have isSpace : ' ' ≠ '\n' := by decide
  induction text generalizing column atStart fresh with
  | nil => simp [doubleFrom, GoesOnIn, lines_cons]
  | cons character rest inductionHypothesis =>
      rw [doubleFrom]
      cases escapes : needsEscape character with
      | true =>
          have oneLine := newline_not_mem_escape character
          rw [if_pos rfl]
          dsimp only
          split
          next =>
            split
            next =>
              rw [List.append_assoc, goesOnIn_append oneLine]
              exact goesOnIn_backslashLine
                ((goesOnIn_cons isBackslash).mpr (inductionHypothesis _ _))
            next =>
              rw [List.append_assoc, goesOnIn_append oneLine]
              exact goesOnIn_backslashLine (inductionHypothesis _ _)
          next =>
            rw [goesOnIn_append oneLine]
            exact inductionHypothesis _ _
      | false =>
          have notEnd : character ≠ '\n' := by
            rintro rfl
            exact absurd escapes (by decide)
          rw [if_neg Bool.false_ne_true]
          split
          next =>
            split
            next =>
              refine goesOnIn_backslashLine ?_
              rw [goesOnIn_cons isBackslash, goesOnIn_cons isSpace]
              exact inductionHypothesis _ _
            next =>
              exact goesOnIn_backslashLine
                ((goesOnIn_cons notEnd).mpr (inductionHypothesis _ _))
          next =>
            rw [goesOnIn_cons notEnd]
            exact inductionHypothesis _ _

/-- A scalar goes on with lines that are further in. -/
theorem goesOnIn_write : GoesOnIn indent (write width indent column text) := by
  rw [write, Style.ofText]
  split
  next isPlain =>
    have plainText := plainText_of_allowsPlain (Bool.and_eq_true_iff.mp isPlain).1
    have oneLine : '\n' ∉ text := fun mem =>
      List.any_eq_false.mp plainText.oneLine _ mem (by decide)
    exact goesOnIn_plainFrom oneLine false
  next =>
    split
    next => exact (goesOnIn_cons (by decide)).mpr (goesOnIn_singleFrom none)
    next => exact (goesOnIn_cons (by decide)).mpr (goesOnIn_doubleFrom true true)

end Styles

end ScriptCheck.Yaml
