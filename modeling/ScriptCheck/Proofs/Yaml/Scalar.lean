import Mathlib.Data.Bool.Basic
import ScriptCheck.Proofs.Yaml.Plain
import ScriptCheck.Proofs.Yaml.Resolution

/-!
# Scalars are read back

Whichever style the analysis of a text has picked, the text is read back as a text, and what was
written of it is printable.
-/

namespace ScriptCheck.Yaml

open Reader

section Reading

variable {width : Option Nat} {least indent column : Nat} {text follow : List Char}

/-- A quotation mark that follows a scalar would go on in it. -/
theorem EndsPlain.noMark (ends : EndsPlain least follow) : follow.head? ≠ some '\'' := by
  intro isMark
  rcases ends.unmarked '\'' isMark with same | same <;> exact absurd same (by decide)

theorem scalar_single {found rest : List Char}
    (read : single (.line []) text = some (found, rest)) :
    scalar least ('\'' :: text) = some (.ofQuoted found, rest) := by
  rw [scalar.eq_def]
  simp [read]

theorem scalar_double {found rest : List Char}
    (read : double (.line []) text = some (found, rest)) :
    scalar least ('"' :: text) = some (.ofQuoted found, rest) := by
  rw [scalar.eq_def]
  simp [read]

/-- A text is read back as a text. -/
theorem scalar_write (indented : 0 < indent) (inside : least ≤ indent)
    (narrow : isOverfull width (indent + 1) = false) (ends : EndsPlain least follow) :
    scalar least (write width indent column text ++ follow) =
      some (.scalar none text, follow) := by
  rw [write, Style.ofText]
  by_cases isPlain : (allowsPlain text && !Implicit.isTyped text) = true
  · obtain ⟨allowed, untyped⟩ := Bool.and_eq_true_iff.mp isPlain
    have untyped := (Bool.not_eq_true' _).mp untyped
    have notEmpty : text ≠ [] := by
      rintro rfl
      exact absurd untyped (by decide)
    rw [if_pos isPlain]
    refine ((plainText_of_allowsPlain allowed).scalar width indent column notEmpty indented inside
      ends).trans ?_
    rw [Node.ofPlain_eq_text untyped]
  rw [if_neg isPlain]
  by_cases isSingle : allowsSingle text = true
  · obtain ⟨ordinary, tight⟩ := Bool.and_eq_true_iff.mp isSingle
    rw [if_pos isSingle]
    refine scalar_single (single_singleFrom indented ends.noMark ordinary ?_
      (.solid (by decide) (by decide)) (column + 1))
    exact (Bool.not_eq_true' _).mp tight
  · rw [if_neg isSingle]
    exact scalar_double (double_doubleFrom indented narrow follow .blanks true true)

end Reading

section Printable

variable {width : Option Nat} {indent column : Nat} {text : List Char}

/-- What needs no escape may stand in a document. -/
theorem isAllowed_of_isOrdinary {character : Char} (ordinary : isOrdinary character = true) :
    isAllowed character = true := by
  rcases Bool.or_eq_true_iff.mp ordinary with lineFeed | printable
  · rw [eq_of_beq lineFeed]
    decide
  · simp only [isAllowed, printable, Bool.or_true, Bool.true_or]

theorem all_isOrdinary_indentation (indent : Nat) :
    (List.replicate indent ' ').all isOrdinary = true :=
  List.all_eq_true.mpr fun _ mem => by rw [List.eq_of_mem_replicate mem]; rfl

theorem all_isOrdinary_newLine (indent : Nat) : (newLine indent).all isOrdinary = true := by
  rw [newLine, List.all_cons, all_isOrdinary_indentation]
  rfl

theorem all_isOrdinary_plainFrom (ordinary : text.all isOrdinary = true) (behindSpace : Bool) :
    (plainFrom width indent column behindSpace text).all isOrdinary = true := by
  induction text generalizing column behindSpace with
  | nil => rfl
  | cons character rest inductionHypothesis =>
      obtain ⟨first, others⟩ := Bool.and_eq_true_iff.mp ordinary
      rw [plainFrom]
      split
      next =>
        rw [List.all_append, all_isOrdinary_newLine, inductionHypothesis others]
        rfl
      next =>
        rw [List.all_cons, first, inductionHypothesis others]
        rfl

theorem all_isOrdinary_singleFrom (ordinary : text.all isOrdinary = true) (previous : Option Char) :
    (singleFrom width indent column previous text).all isOrdinary = true := by
  have isMark : isOrdinary '\'' = true := by decide
  have isLineFeed : isOrdinary '\n' = true := by decide
  have isSpace : isOrdinary ' ' = true := by decide
  induction text generalizing column previous with
  | nil => rfl
  | cons character rest inductionHypothesis =>
      obtain ⟨first, others⟩ := Bool.and_eq_true_iff.mp ordinary
      rw [singleFrom]
      split
      next => simp only [List.all_cons, isMark, inductionHypothesis others, Bool.and_self]
      next =>
        split
        next =>
          simp only [List.all_append, inductionHypothesis others, Bool.and_true]
          split <;> split <;> simp [isLineFeed, isSpace]
        next =>
          split
          next =>
            simp only [List.all_append, all_isOrdinary_newLine, inductionHypothesis others,
              Bool.and_self]
          next => simp only [List.all_cons, first, inductionHypothesis others, Bool.and_self]

theorem isOrdinary_of_isHexDigit {digit : Char} (isDigit : Text.isHexDigit digit = true) :
    isOrdinary digit = true := by
  have inRange : 0x20 ≤ digit.toNat ∧ digit.toNat ≤ 0x7E := by
    unfold Text.isHexDigit Text.hexValue? at isDigit
    dsimp only at isDigit
    split at isDigit
    next => omega
    next =>
      split at isDigit
      next => omega
      next =>
        split at isDigit
        next => omega
        next => cases isDigit
  simp [isOrdinary, inRange]

theorem all_isOrdinary_escape (character : Char) : (escape character).all isOrdinary = true := by
  have digits : ∀ width, (Text.hexDigits .upper width character.toNat).all isOrdinary = true := by
    intro width
    have isHex := List.all_eq_true.mp (Text.all_isHexDigit_hexDigits .upper width character.toNat)
    exact List.all_eq_true.mpr fun digit mem => isOrdinary_of_isHexDigit (isHex digit mem)
  unfold escape
  split
  next letter short =>
    obtain ⟨-, isLetter, -⟩ := lookup_escapeLetter? short
    simp [isLetter]
    decide
  next =>
    dsimp only
    split
    next => simp [digits]; decide
    next => split <;> (simp [digits]; decide)

theorem all_isOrdinary_doubleFrom (atStart fresh : Bool) :
    (doubleFrom width indent column atStart fresh text).all isOrdinary = true := by
  have isBackslash : isOrdinary '\\' = true := by decide
  have isSpace : isOrdinary ' ' = true := by decide
  induction text generalizing column atStart fresh with
  | nil => rfl
  | cons character rest inductionHypothesis =>
      rw [doubleFrom]
      cases escapes : needsEscape character with
      | true =>
          rw [if_pos rfl]
          dsimp only
          split
          next =>
            split <;>
              simp only [List.all_append, List.all_cons, all_isOrdinary_escape,
                all_isOrdinary_newLine, isBackslash, inductionHypothesis, Bool.and_self]
          next =>
            simp only [List.all_append, all_isOrdinary_escape, inductionHypothesis, Bool.and_self]
      | false =>
          have ordinary : isOrdinary character = true := by
            simp only [needsEscape, Bool.or_eq_false_iff, Bool.not_eq_false'] at escapes
            exact Bool.or_eq_true_iff.mpr (.inr escapes.2)
          rw [if_neg Bool.false_ne_true]
          split
          next =>
            split <;>
              simp only [List.all_append, List.all_cons, all_isOrdinary_newLine, ordinary,
                isBackslash, isSpace, inductionHypothesis, Bool.and_self]
          next => simp only [List.all_cons, ordinary, inductionHypothesis, Bool.and_self]

/-- What is written of a text needs no escape. -/
theorem all_isOrdinary_write : (write width indent column text).all isOrdinary = true := by
  rw [write, Style.ofText]
  split
  next isPlain =>
    have plainText := plainText_of_allowsPlain (Bool.and_eq_true_iff.mp isPlain).1
    exact all_isOrdinary_plainFrom plainText.ordinary false
  next =>
    split
    next isSingle =>
      have ordinary := (Bool.and_eq_true_iff.mp isSingle).1
      exact Bool.and_eq_true_iff.mpr ⟨by decide, all_isOrdinary_singleFrom ordinary none⟩
    next => exact Bool.and_eq_true_iff.mpr ⟨by decide, all_isOrdinary_doubleFrom true true⟩

end Printable

end ScriptCheck.Yaml
