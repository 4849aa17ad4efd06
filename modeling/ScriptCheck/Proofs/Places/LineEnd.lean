import Mathlib.Data.Nat.Count
import ScriptCheck.Grammar.Character

/-!
# Counting line ends

A line ends at a line end, but a carriage return leaves that to a line feed behind it. The number of
the line at an index counts the ends before it, so it grows by one from the start of a line to the
place behind the end: `lineNumber_lt`.
-/

namespace ScriptCheck.Grammar

/-- Whether a line ends with the character at an index. -/
def endsLine (text : Array Char) (index : Nat) : Bool :=
  match text[index]? with
  | some character =>
      isLineEnd character && !(character == '\r' && text[index + 1]? == some '\n')
  | none => false

/-- The number of the line at an index. -/
def lineNumber (text : Array Char) (index : Nat) : Nat :=
  1 + Nat.count (fun before => endsLine text before = true) index

variable {text : Array Char} {index : Nat}

theorem lineNumber_pos : 1 ≤ lineNumber text index := Nat.le_add_right 1 _

/-- There are no more lines before an index than characters, and one more. -/
theorem lineNumber_le : lineNumber text index ≤ index + 1 := by
  have counted := Nat.count_le (p := fun before => endsLine text before = true) (n := index)
  rw [lineNumber]
  omega

theorem lineNumber_mono {later : Nat} (le : index ≤ later) :
    lineNumber text index ≤ lineNumber text later :=
  Nat.add_le_add_left (Nat.count_monotone _ le) 1

/-- A line end is counted behind it. -/
theorem lineNumber_lt {lineStart : Nat} (le : lineStart ≤ index)
    (ends : endsLine text index = true) :
    lineNumber text lineStart + 1 ≤ lineNumber text (index + 1) := by
  have before : lineNumber text lineStart ≤ lineNumber text index := lineNumber_mono le
  have counted : lineNumber text (index + 1) = lineNumber text index + 1 := by
    simp only [lineNumber, Nat.count_succ, if_pos ends, Nat.add_assoc]
  omega

/-- No line ends behind the text. -/
theorem lineNumber_le_size : lineNumber text index ≤ lineNumber text text.size := by
  rcases Nat.le_total index text.size with within | behind
  · exact lineNumber_mono within
  · have ended : ∀ step, lineNumber text (text.size + step) = lineNumber text text.size := by
      intro step
      induction step with
      | zero => rfl
      | succ step inductionHypothesis =>
          have noEnd : ¬ endsLine text (text.size + step) = true := by
            simp [endsLine]
          rw [← inductionHypothesis, lineNumber, ← Nat.add_assoc, Nat.count_succ, if_neg noEnd]
          rfl
    obtain ⟨step, rfl⟩ := Nat.exists_eq_add_of_le behind
    exact Nat.le_of_eq (ended step)

end ScriptCheck.Grammar
