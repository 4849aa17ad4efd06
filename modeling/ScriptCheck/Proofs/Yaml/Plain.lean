import Mathlib.Data.Bool.Basic
import ScriptCheck.Proofs.Yaml.Quoted

/-!
# Plain scalars are read back

A text without quotation marks is written as it is, but for line folds in the place of single
spaces. What the analysis of a text rules out is all at which reading would stop too early.
-/

namespace ScriptCheck.Yaml

open Reader

/-- What a plain scalar ends in front of: it is read on for nothing, and no mark goes on in it. -/
structure EndsPlain (least : Nat) (follow : List Char) : Prop where
  stops (column : Nat) : plain least (.line []) column follow follow = ([], follow)
  unmarked : ∀ next ∈ follow.head?, next = '\n' ∨ next = ':'

section Steps

variable {least column : Nat} {gap : Gap} {back rest : List Char}

theorem plain_blank :
    plain least gap column back (' ' :: rest) =
      plain least (gap.blank ' ') (column + 1) back rest := by
  rw [plain.eq_def]
  simp

theorem plain_lineEnd (unmarked : startsWithMark rest = false) :
    plain least gap column back ('\n' :: rest) = plain least gap.lineEnd 0 back rest := by
  rw [plain.eq_def]
  simp [unmarked]

theorem plain_other {character : Char} (notSpace : character ≠ ' ') (notEnd : character ≠ '\n')
    (goesOn : ¬(character = '\t' ∨ (character = ':' ∧ blankNext rest) ∨
      (character = '#' ∧ gap ≠ .line []) ∨ (gap.isFolded ∧ column < least))) :
    plain least gap column back (character :: rest) =
      (gap.content ++ character :: (plain least (.line []) 0 rest rest).1,
        (plain least (.line []) 0 rest rest).2) := by
  rw [plain.eq_def]
  simp only [notSpace, notEnd, goesOn, ↓reduceIte]

/-- Blanks at the start of a line are counted. -/
theorem plain_indentation (escaped : Bool) (count indent : Nat) :
    plain least (.folded escaped count) column back (List.replicate indent ' ' ++ rest) =
      plain least (.folded escaped count) (column + indent) back rest := by
  induction indent generalizing column with
  | zero => rfl
  | succ indent inductionHypothesis =>
      rw [List.replicate_succ, List.cons_append, plain_blank, Gap.blank_folded,
        inductionHypothesis, Nat.add_assoc, Nat.add_comm 1]

theorem plain_newLine {indent : Nat} (indented : 0 < indent) :
    plain least (.line []) column back (newLine indent ++ rest) =
      plain least (.folded false 0) indent back rest := by
  rw [newLine, List.cons_append, plain_lineEnd (startsWithMark_indented indented _), Gap.lineEnd,
    plain_indentation, Nat.zero_add]

/-- A plain scalar ends in front of the colon of a key. -/
theorem endsPlain_colon (blank : blankNext rest = true) : EndsPlain least (':' :: rest) where
  stops column := by
    rw [plain.eq_def]
    simp [blank]
  unmarked := by simp

/-- A plain scalar ends in front of a line that starts left of it. -/
theorem endsPlain_line {indent : Nat} (left : indent < least) {character : Char}
    (notSpace : character ≠ ' ') (notEnd : character ≠ '\n') (rest : List Char) :
    EndsPlain least (newLine indent ++ character :: rest) where
  stops column := by
    rw [newLine, List.cons_append, plain.eq_def]
    simp only [Char.reduceEq, ↓reduceIte]
    split
    next => rfl
    next =>
      rw [Gap.lineEnd, plain_indentation, Nat.zero_add, plain.eq_def]
      simp [notSpace, notEnd, Gap.isFolded, left]
  unmarked := by simp [newLine]

/-- A plain scalar ends in front of the last line end. -/
theorem endsPlain_last (least : Nat) : EndsPlain least ['\n'] where
  stops column := by
    rw [plain_lineEnd rfl]
    rfl
  unmarked := by simp

/-- Where a plain scalar starts, it is read. -/
theorem scalar_plain {text found : List Char} (starts : startsPlain text = true)
    (unmarked : startsWithMark text = false)
    (read : plain least (.line []) 0 text text = (found, rest)) :
    scalar least text = some (.ofPlain found, rest) := by
  unfold scalar
  split
  next => exact absurd starts (by simp [startsPlain])
  next => exact absurd starts (by simp [startsPlain])
  next => simp [starts, unmarked, read]

end Steps

/-- What the reader has not handed out yet of a plain text, at `column` and behind a space or not,
when `rest` is still to come: spaces, or a space that was folded. -/
inductive PlainGap (least : Nat) : (gap : Gap) → (column : Nat) → (behindSpace : Bool) →
    (rest : List Char) → Prop where
  | solid {column : Nat} {rest : List Char} : PlainGap least (.line []) column false rest
  | spaces {blanks : List Char} {column : Nat} {rest : List Char} :
      PlainGap least (.line blanks) column true rest
  | folded {column : Nat} {next : Char} {rest : List Char} (notSpace : next ≠ ' ')
      (inside : least ≤ column) : PlainGap least (.folded false 0) column true (next :: rest)

/-- A blank behind what was written of a text is one behind the text. -/
theorem blankFollows_of_written {width : Option Nat} {indent column : Nat} {behindSpace : Bool}
    {text follow : List Char}
    (blank : blankNext (plainFrom width indent column behindSpace text ++ follow) = true) :
    blankFollows text = true := by
  cases text with
  | nil => rfl
  | cons character rest =>
      rw [plainFrom] at blank
      split at blank
      next folds => simp [blankFollows, folds.1, isBlank]
      next =>
        simp only [List.cons_append, blankNext, Bool.or_eq_true, beq_iff_eq] at blank
        rcases blank with (rfl | rfl) | rfl <;> simp [blankFollows, isBlank, isBreak]

/-- A space that is no first of a folded line stands on its line. -/
theorem PlainGap.onLine {least : Nat} {gap : Gap} {column : Nat} {behindSpace : Bool}
    {rest : List Char} (fits : PlainGap least gap column behindSpace (' ' :: rest)) :
    ∃ blanks, gap = .line blanks := by
  cases fits with
  | solid | spaces => exact ⟨_, rfl⟩
  | folded notSpace => exact absurd rfl notSpace

/-- No plain text ends in front of one of its own characters: a tab is not ordinary, a sign is ruled
out where it would be one, and a line inside starts far enough to the right. -/
theorem PlainGap.goesOn {width : Option Nat} {least indent column place : Nat} {gap : Gap}
    {behindSpace behindBlank : Bool} {character : Char} {rest follow : List Char}
    (fits : PlainGap least gap column behindSpace (character :: rest))
    (ordinary : isOrdinary character = true)
    (notColon : (character == ':' && blankFollows rest) = false)
    (notNumber : (character == '#' && behindBlank) = false)
    (blank : behindSpace = true → behindBlank = true) :
    ¬(character = '\t' ∨
      (character = ':' ∧ blankNext (plainFrom width indent place false rest ++ follow)) ∨
      (character = '#' ∧ gap ≠ .line []) ∨ (gap.isFolded ∧ column < least)) := by
  rintro (rfl | ⟨rfl, blankBehind⟩ | ⟨rfl, notSolid⟩ | ⟨isFolded, left⟩)
  · exact absurd ordinary (by decide)
  · simp [blankFollows_of_written blankBehind] at notColon
  · cases fits with
    | solid => exact notSolid rfl
    | spaces | folded => simp [blank rfl] at notNumber
  · cases fits with
    | solid | spaces => exact Bool.false_ne_true isFolded
    | folded _ inside => omega

/-- A space inside a plain text is read back if what follows it is, whatever gap it leaves. -/
theorem plain_space {width : Option Nat} {least indent column : Nat} (indented : 0 < indent)
    (inside : least ≤ indent) {gap : Gap} {behindSpace : Bool} {next : Char}
    {others back follow : List Char}
    (fits : PlainGap least gap column behindSpace (' ' :: next :: others))
    (readBack : ∀ {gap : Gap} {column : Nat} (place : Nat),
      PlainGap least gap column true (next :: others) →
        plain least gap column back (plainFrom width indent place true (next :: others) ++ follow) =
          (gap.content ++ next :: others, follow)) (place : Nat) :
    plain least gap column back
        (plainFrom width indent place behindSpace (' ' :: next :: others) ++ follow) =
      (gap.content ++ ' ' :: next :: others, follow) := by
  rw [plainFrom]
  split
  next folds =>
    obtain ⟨-, first, notNext, -⟩ := folds
    cases fits with
    | spaces | folded => exact absurd first (by decide)
    | solid =>
        rw [List.append_assoc, plain_newLine indented,
          readBack _ (.folded (fun same => notNext (by rw [same, List.head?_cons])) inside)]
        rfl
  next =>
    obtain ⟨blanks, rfl⟩ := fits.onLine
    rw [List.cons_append, plain_blank, Gap.blank, beq_self_eq_true, readBack _ .spaces,
      Gap.content, Gap.content, List.append_assoc, List.singleton_append]

/-- A plain text is read back. -/
theorem plain_plainFrom {width : Option Nat} {least indent : Nat} (indented : 0 < indent)
    (inside : least ≤ indent) {follow : List Char} (ends : EndsPlain least follow)
    {text : List Char} (ordinary : text.all isOrdinary = true) (oneLine : text.any isBreak = false)
    {behindBlank : Bool} (unsigned : hasInnerSign behindBlank text = false)
    (last : text.getLast? ≠ some ' ') {gap : Gap} {column : Nat} {behindSpace : Bool}
    (fits : PlainGap least gap column behindSpace text)
    (blank : behindSpace = true → behindBlank = true) {back : List Char}
    (ended : text = [] → gap = .line [] ∧ back = follow) (place : Nat) :
    plain least gap column back (plainFrom width indent place behindSpace text ++ follow) =
      (gap.content ++ text, follow) := by
  induction text generalizing behindBlank gap column behindSpace back place with
  | nil =>
      obtain ⟨rfl, rfl⟩ := ended rfl
      rw [plainFrom, List.nil_append, ends.stops]
      rfl
  | cons character rest inductionHypothesis =>
      obtain ⟨isOrdinary_first, ordinary⟩ := Bool.and_eq_true_iff.mp ordinary
      obtain ⟨notBreak, oneLine⟩ := Bool.or_eq_false_iff.mp oneLine
      simp only [hasInnerSign, Bool.or_eq_false_iff] at unsigned
      obtain ⟨⟨notColon, notNumber⟩, unsigned⟩ := unsigned
      by_cases isSpace : character = ' '
      · subst isSpace
        obtain ⟨next, others, rfl⟩ : ∃ next others, rest = next :: others :=
          List.exists_cons_of_ne_nil (by rintro rfl; exact last rfl)
        have last : (next :: others).getLast? ≠ some ' ' := by
          rwa [List.getLast?_cons_cons] at last
        exact plain_space indented inside fits (fun place fits =>
          inductionHypothesis ordinary oneLine unsigned last fits (fun _ => by decide)
            (fun empty => absurd empty (List.cons_ne_nil _ _)) place) place
      · have last : rest.getLast? ≠ some ' ' :=
          fun isLast => last (by rw [List.getLast?_cons, isLast]; rfl)
        have isOther : (character == ' ') = false := beq_eq_false_iff_ne.mpr isSpace
        have notEnd : character ≠ '\n' := by rintro rfl; exact absurd notBreak (by decide)
        let written := plainFrom width indent (place + 1) false rest ++ follow
        have resumed : plain least (.line []) 0 written written = (rest, follow) :=
          inductionHypothesis ordinary oneLine unsigned last .solid
            (fun isTrue => absurd isTrue (by decide))
            (by rintro rfl; exact ⟨rfl, rfl⟩) (place + 1)
        rw [plainFrom, if_neg (fun folds => isSpace folds.1), isOther, List.cons_append,
          plain_other isSpace notEnd
            (fits.goesOn isOrdinary_first notColon notNumber blank), resumed]

/-- What is written of a text starts with nothing on one line with which the text does not start. -/
theorem isPrefix_of_written {width : Option Nat} {indent : Nat} {follow mark text : List Char}
    (oneLine : '\n' ∉ mark) (unmarked : ∀ next ∈ follow.head?, next ∉ mark)
    {column : Nat} {behindSpace : Bool}
    (starts : mark <+: plainFrom width indent column behindSpace text ++ follow) :
    mark <+: text := by
  induction mark generalizing text column behindSpace with
  | nil => exact List.nil_prefix
  | cons first mark inductionHypothesis =>
      have notEnd := List.ne_of_not_mem_cons oneLine
      have oneLine := List.not_mem_of_not_mem_cons oneLine
      cases text with
      | nil =>
          obtain ⟨rest, rfl⟩ := starts
          exact absurd List.mem_cons_self (unmarked first rfl)
      | cons character rest =>
          rw [plainFrom] at starts
          split at starts
          next => exact absurd (List.cons_prefix_cons.mp starts).1.symm notEnd
          next =>
            obtain ⟨rfl, starts⟩ := List.cons_prefix_cons.mp starts
            refine List.cons_prefix_cons.mpr ⟨rfl, inductionHypothesis oneLine ?_ starts⟩
            exact fun next isNext mem => unmarked next isNext (List.mem_cons_of_mem _ mem)

/-- What the analysis of a plain text has ruled out. -/
structure PlainText (text : List Char) : Prop where
  unmarked : startsDocument text = false
  unopened : startsWithSign text = false
  unsigned : hasInnerSign true text = false
  inner : hasOuterSpace text = false
  oneLine : text.any isBreak = false
  ordinary : text.all isOrdinary = true

theorem plainText_of_allowsPlain {text : List Char} (allowed : allowsPlain text = true) :
    PlainText text := by
  simp only [allowsPlain, Bool.and_eq_true, Bool.not_eq_true'] at allowed
  obtain ⟨⟨⟨⟨⟨unmarked, unopened⟩, unsigned⟩, inner⟩, oneLine⟩, ordinary⟩ := allowed
  exact ⟨unmarked, unopened, unsigned, inner, oneLine, ordinary⟩

section Scalar

variable {least : Nat} {text follow : List Char} (width : Option Nat) (indent column : Nat)

/-- What is written of a plain text does not start with the mark of a document. -/
theorem PlainText.startsWithMark (plainText : PlainText text) (ends : EndsPlain least follow) :
    Reader.startsWithMark (plainFrom width indent column false text ++ follow) = false := by
  have noMark : ∀ {mark : List Char}, '\n' ∉ mark → ':' ∉ mark → mark.length = 3 →
      text.take 3 ≠ mark → (plainFrom width indent column false text ++ follow).take 3 ≠ mark := by
    intro mark noLineFeed noColon three differs starts
    have startsText : mark <+: text := by
      refine isPrefix_of_written noLineFeed ?_ (starts ▸ List.take_prefix 3 _)
      intro next isNext
      rcases ends.unmarked next isNext with rfl | rfl
      · exact noLineFeed
      · exact noColon
    rw [List.prefix_iff_eq_take, three] at startsText
    exact differs startsText.symm
  obtain ⟨noStart, noEnd⟩ := Bool.or_eq_false_iff.mp plainText.unmarked
  rw [Reader.startsWithMark, Bool.and_eq_false_iff, Bool.or_eq_false_iff, beq_eq_false_iff_ne,
    beq_eq_false_iff_ne]
  exact .inl ⟨noMark (by decide) (by decide) rfl (by simpa using noStart),
    noMark (by decide) (by decide) rfl (by simpa using noEnd)⟩

/-- Where a plain text was written, a plain scalar starts. -/
theorem PlainText.startsPlain (plainText : PlainText text) (notEmpty : text ≠ []) :
    Reader.startsPlain (plainFrom width indent column false text ++ follow) = true := by
  obtain ⟨first, rest, rfl⟩ := List.exists_cons_of_ne_nil notEmpty
  have notSpace : first ≠ ' ' := by
    rintro rfl
    exact absurd plainText.inner (by simp [hasOuterSpace])
  have isOrdinary_first := (Bool.and_eq_true_iff.mp plainText.ordinary).1
  have notTab : first ≠ '\t' := by rintro rfl; exact absurd isOrdinary_first (by decide)
  have notBreak := (Bool.or_eq_false_iff.mp plainText.oneLine).1
  have notEnd : first ≠ '\n' := by rintro rfl; exact absurd notBreak (by decide)
  obtain ⟨unopened, unsigned⟩ := Bool.or_eq_false_iff.mp plainText.unopened
  rw [plainFrom, if_neg (fun folds => notSpace folds.1), List.cons_append, Reader.startsPlain]
  split
  next isSign =>
    have notBlank : blankFollows rest = false := by
      rcases isSign with rfl | rfl | rfl <;> simpa using unsigned
    rw [Bool.not_eq_true', ← Bool.not_eq_true]
    intro blank
    rw [blankFollows_of_written blank] at notBlank
    exact absurd notBlank (by decide)
  next =>
    have unblank : blankNext [first] = false := by simp [blankNext, notSpace, notTab, notEnd]
    rw [unblank, Bool.not_false, Bool.true_and, Bool.not_eq_true', ← unopened, isOpeningSign]
    exact List.Perm.contains_eq (by decide)

/-- A plain scalar is read back. -/
theorem PlainText.scalar (plainText : PlainText text) (notEmpty : text ≠ [])
    (indented : 0 < indent) (inside : least ≤ indent) (ends : EndsPlain least follow) :
    Reader.scalar least (plainFrom width indent column false text ++ follow) =
      some (.ofPlain text, follow) := by
  have last : text.getLast? ≠ some ' ' := by
    have inner := (Bool.or_eq_false_iff.mp plainText.inner).2
    exact beq_eq_false_iff_ne.mp inner
  let written := plainFrom width indent column false text ++ follow
  have found : plain least (.line []) 0 written written = (text, follow) :=
    plain_plainFrom indented inside ends plainText.ordinary plainText.oneLine plainText.unsigned
      last .solid (fun isTrue => absurd isTrue (by decide))
      (fun empty => absurd empty notEmpty) column
  exact scalar_plain (plainText.startsPlain width indent column notEmpty)
    (plainText.startsWithMark width indent column ends) found

end Scalar

end ScriptCheck.Yaml
