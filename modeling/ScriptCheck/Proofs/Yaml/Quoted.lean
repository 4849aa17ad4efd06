import Mathlib.Data.Bool.Basic
import ScriptCheck.Proofs.Text.DigitReading
import ScriptCheck.Proofs.Yaml.Reader
import ScriptCheck.Yaml.Scalar

/-!
# Quoted scalars are read back

Between quotation marks a text is written with more line ends than it has, and with escapes. Reading
undoes this character by character: what was written of a text so far leaves the reader in a gap
that stands for what it has not handed out yet.
-/

namespace ScriptCheck.Yaml

open Reader

/-- A line that starts with a blank or is empty starts with no mark. -/
theorem startsWithMark_of_blank {first : Char} (blank : first = ' ' ∨ first = '\n')
    (rest : List Char) : startsWithMark (first :: rest) = false := by
  rcases blank with rfl | rfl <;> simp [startsWithMark, List.take_succ_cons]

/-- An indentation starts with no mark. -/
theorem startsWithMark_indented {indent : Nat} (indented : 0 < indent) (rest : List Char) :
    startsWithMark (List.replicate indent ' ' ++ rest) = false := by
  obtain ⟨indent, rfl⟩ := Nat.exists_eq_add_of_lt indented
  rw [Nat.zero_add, List.replicate_succ]
  exact startsWithMark_of_blank (.inl rfl) _

namespace Reader

@[simp] theorem behind_some (characters others rest : List Char) :
    behind characters (some (others, rest)) = some (characters ++ others, rest) := rfl

@[simp] theorem Gap.blank_folded (character : Char) (escaped : Bool) (count : Nat) :
    (Gap.folded escaped count).blank character = .folded escaped count := rfl

/-- Empty lines are line feeds. -/
theorem Gap.content_emptyLines (escaped : Bool) (count : Nat) :
    (Gap.folded escaped (count + 1)).content = List.replicate (count + 1) '\n' := by
  cases escaped <;> rfl

section Single

variable {gap : Gap} {rest : List Char}

theorem single_closed (last : rest.head? ≠ some '\'') :
    single gap ('\'' :: rest) = some (gap.content, rest) := by
  cases rest with
  | nil => simp [single]
  | cons next rest =>
      have differs : next ≠ '\'' := by simpa using last
      unfold single
      simp only [↓reduceIte]
      split
      next same => simp_all
      next => rfl

theorem single_doubled :
    single gap ('\'' :: '\'' :: rest) =
      behind (gap.content ++ ['\'']) (single (.line []) rest) := by
  rw [single, if_pos rfl]

theorem single_blank : single gap (' ' :: rest) = single (gap.blank ' ') rest := by
  rw [single.eq_def]
  simp

theorem single_lineEnd (unmarked : startsWithMark rest = false) :
    single gap ('\n' :: rest) = single gap.lineEnd rest := by
  rw [single.eq_def]
  simp [unmarked]

theorem single_other {character : Char} (notMark : character ≠ '\'') (notSpace : character ≠ ' ')
    (notTab : character ≠ '\t') (notEnd : character ≠ '\n') :
    single gap (character :: rest) =
      behind (gap.content ++ [character]) (single (.line []) rest) := by
  rw [single.eq_def]
  simp [notMark, notSpace, notTab, notEnd]

/-- Blanks at the start of a line are passed over. -/
theorem single_indentation (escaped : Bool) (count indent : Nat) :
    single (.folded escaped count) (List.replicate indent ' ' ++ rest) =
      single (.folded escaped count) rest := by
  induction indent with
  | zero => rfl
  | succ indent inductionHypothesis =>
      rw [List.replicate_succ, List.cons_append, single_blank, Gap.blank_folded,
        inductionHypothesis]

/-- A new line is a line end. -/
theorem single_newLine {indent : Nat} (indented : 0 < indent) :
    single gap (newLine indent ++ rest) = single gap.lineEnd rest := by
  rw [newLine, List.cons_append, single_lineEnd (startsWithMark_indented indented _)]
  cases gap <;> exact single_indentation _ _ _

end Single

end Reader

/-- The relation that no two neighbours have in a text between single quotation marks. -/
def isLooseBreak (first second : Char) : Bool :=
  (isBreak first && second == ' ') || (first == ' ' && isBreak second)

/-- What the reader has not handed out yet of a text between single quotation marks, when the last
character was `previous` and `rest` is still to come: spaces, or the line ends at the end of a line,
or a space that was folded. -/
inductive SingleGap : (gap : Gap) → (previous : Option Char) → (rest : List Char) → Prop where
  | solid {previous : Option Char} {rest : List Char} (notSpace : previous ≠ some ' ')
      (notEnd : previous ≠ some '\n') : SingleGap (.line []) previous rest
  | spaces {blanks rest : List Char} : SingleGap (.line blanks) (some ' ') rest
  | folded {next : Char} {rest : List Char} (notSpace : next ≠ ' ') :
      SingleGap (.folded false 0) (some ' ') (next :: rest)
  | emptyLines {count : Nat} {rest : List Char} :
      SingleGap (.folded false (count + 1)) (some '\n') rest

section SingleFrom

variable {width : Option Nat} {indent column : Nat} {previous : Option Char} {character : Char}
  {rest tail : List Char}

theorem tight_tail {related : Char → Char → Bool}
    (tight : hasNeighbours related (previous.toList ++ character :: rest) = false) :
    hasNeighbours related ((some character).toList ++ rest) = false := by
  cases previous with
  | none => exact tight
  | some first => exact (Bool.or_eq_false_iff.mp tight).2

theorem tight_head {related : Char → Char → Bool} {first : Char}
    (tight : hasNeighbours related ((some first).toList ++ character :: rest) = false) :
    related first character = false :=
  (Bool.or_eq_false_iff.mp tight).1

/-- A space is kept, unless it may be folded. -/
theorem SingleGap.blank {gap : Gap} (fits : SingleGap gap previous (' ' :: rest))
    (tight : hasNeighbours isLooseBreak (previous.toList ++ ' ' :: rest) = false) :
    SingleGap (gap.blank ' ') (some ' ') rest ∧
      (gap.blank ' ').content = gap.content ++ [' '] := by
  cases fits with
  | solid => exact ⟨.spaces, rfl⟩
  | spaces => exact ⟨.spaces, rfl⟩
  | folded notSpace => exact absurd rfl notSpace
  | emptyLines => exact absurd (tight_head tight) (by decide)

/-- A space that is folded stands behind a character that is no blank. -/
theorem SingleGap.fold {gap : Gap} (fits : SingleGap gap previous (' ' :: rest))
    (tight : hasNeighbours isLooseBreak (previous.toList ++ ' ' :: rest) = false)
    (first : previous ≠ some ' ') : gap = .line [] := by
  cases fits with
  | solid => rfl
  | spaces => exact absurd rfl first
  | folded notSpace => exact absurd rfl notSpace
  | emptyLines => exact absurd (tight_head tight) (by decide)

/-- The line feeds of a text so far, in front of one more. -/
theorem SingleGap.lineFeeds {gap : Gap} (fits : SingleGap gap previous ('\n' :: rest))
    (tight : hasNeighbours isLooseBreak (previous.toList ++ '\n' :: rest) = false) :
    (previous ≠ some '\n' ∧ gap = .line []) ∨
      ∃ count, previous = some '\n' ∧ gap = .folded false (count + 1) := by
  cases fits with
  | solid notSpace notEnd => exact .inl ⟨notEnd, rfl⟩
  | spaces | folded => exact absurd (tight_head tight) (by decide)
  | emptyLines => exact .inr ⟨_, rfl, rfl⟩

/-- Behind a line feed the next line starts with no mark, and its indentation is passed over. -/
theorem single_afterLineFeed (indented : 0 < indent) (column : Nat) (gap : Gap) :
    let closed := if rest.head? = some '\n' then [] else List.replicate indent ' '
    let written := singleFrom width indent column (some '\n') rest ++ tail
    single gap ('\n' :: (closed ++ written)) = single gap.lineEnd written := by
  intro closed written
  by_cases lineFeed : rest.head? = some '\n'
  · obtain ⟨rest, rfl⟩ : ∃ others, rest = '\n' :: others := by
      cases rest with
      | nil => cases lineFeed
      | cons first others => exact ⟨others, by rw [Option.some.inj lineFeed]⟩
    have starts : ∃ others, written = '\n' :: others := by
      simp only [written, singleFrom, Char.reduceEq, ↓reduceIte, List.cons_append, List.nil_append]
      exact ⟨_, rfl⟩
    obtain ⟨others, starts⟩ := starts
    simp only [closed, lineFeed, ↓reduceIte, List.nil_append, starts]
    exact single_lineEnd (startsWithMark_of_blank (.inr rfl) others)
  · simp only [closed, lineFeed, ↓reduceIte]
    exact single_newLine indented

/-- What is written of a text between single quotation marks behind the character `previous` is read
back, whatever gap the reader stands in. -/
def IsSingleReadBack (width : Option Nat) (indent : Nat) (tail : List Char)
    (previous : Option Char) (text : List Char) : Prop :=
  ∀ ⦃gap : Gap⦄, SingleGap gap previous text → ∀ column : Nat,
    single gap (singleFrom width indent column previous text ++ tail) =
      some (gap.content ++ text, tail)

namespace IsSingleReadBack

variable {gap : Gap}

/-- A quotation mark is doubled. -/
theorem mark (readBack : IsSingleReadBack width indent tail (some '\'') rest) (gap : Gap)
    (previous : Option Char) (column : Nat) :
    single gap (singleFrom width indent column previous ('\'' :: rest) ++ tail) =
      some (gap.content ++ '\'' :: rest, tail) := by
  rw [singleFrom, if_pos rfl, List.cons_append, List.cons_append, single_doubled,
    readBack (.solid (by decide) (by decide))]
  simp [Gap.content]

/-- A line feed is an empty line more than the line end in front of the first. -/
theorem lineFeed (indented : 0 < indent)
    (readBack : IsSingleReadBack width indent tail (some '\n') rest)
    (tight : hasNeighbours isLooseBreak (previous.toList ++ '\n' :: rest) = false)
    (fits : SingleGap gap previous ('\n' :: rest)) (column : Nat) :
    single gap (singleFrom width indent column previous ('\n' :: rest) ++ tail) =
      some (gap.content ++ '\n' :: rest, tail) := by
  rw [singleFrom, if_neg (by decide), if_pos rfl, List.append_assoc, List.append_assoc]
  rcases fits.lineFeeds tight with ⟨first, rfl⟩ | ⟨count, rfl, rfl⟩
  · rw [if_neg first, List.cons_append, List.singleton_append,
      single_lineEnd (startsWithMark_of_blank (.inr rfl) _),
      single_afterLineFeed indented indent]
    exact readBack .emptyLines indent
  · rw [if_pos rfl, List.singleton_append, single_afterLineFeed indented indent,
      Gap.lineEnd, readBack .emptyLines indent]
    rw [Gap.content_emptyLines, Gap.content_emptyLines, List.replicate_succ',
      List.append_assoc, List.singleton_append]

/-- A space stands for itself, or a new line stands for it. -/
theorem space (indented : 0 < indent)
    (readBack : IsSingleReadBack width indent tail (some ' ') rest)
    (tight : hasNeighbours isLooseBreak (previous.toList ++ ' ' :: rest) = false)
    (fits : SingleGap gap previous (' ' :: rest)) (column : Nat) :
    single gap (singleFrom width indent column previous (' ' :: rest) ++ tail) =
      some (gap.content ++ ' ' :: rest, tail) := by
  rw [singleFrom, if_neg (by decide), if_neg (by decide)]
  split
  next folds =>
    obtain ⟨-, -, first, notLast, notNext, -⟩ := folds
    obtain ⟨next, others, rfl⟩ : ∃ next others, rest = next :: others :=
      List.exists_cons_of_ne_nil (by rintro rfl; exact absurd notLast (by decide))
    rw [fits.fold tight first, List.append_assoc, single_newLine indented, Gap.lineEnd,
      readBack (.folded fun same => notNext (by rw [same, List.head?_cons]))]
    rfl
  next =>
    obtain ⟨fits, content⟩ := fits.blank tight
    rw [List.cons_append, single_blank, readBack fits, content, List.append_assoc,
      List.singleton_append]

/-- Any other character stands for itself. -/
theorem other (readBack : IsSingleReadBack width indent tail (some character) rest)
    (ordinary : isOrdinary character = true) (notMark : character ≠ '\'')
    (notEnd : character ≠ '\n') (notSpace : character ≠ ' ') (gap : Gap)
    (previous : Option Char) (column : Nat) :
    single gap (singleFrom width indent column previous (character :: rest) ++ tail) =
      some (gap.content ++ character :: rest, tail) := by
  have notTab : character ≠ '\t' := by rintro rfl; exact absurd ordinary (by decide)
  rw [singleFrom, if_neg notMark, if_neg notEnd, if_neg (fun folds => notSpace folds.1),
    List.cons_append, single_other notMark notSpace notTab notEnd,
    readBack (.solid (by simpa using notSpace) (by simpa using notEnd))]
  simp [Gap.content]

end IsSingleReadBack

/-- A text between single quotation marks is read back. -/
theorem single_singleFrom (indented : 0 < indent) (closed : tail.head? ≠ some '\'')
    {text : List Char} (ordinary : text.all isOrdinary = true) {gap : Gap}
    (tight : hasNeighbours isLooseBreak (previous.toList ++ text) = false)
    (fits : SingleGap gap previous text) (column : Nat) :
    single gap (singleFrom width indent column previous text ++ tail) =
      some (gap.content ++ text, tail) := by
  induction text generalizing gap previous column with
  | nil =>
      rw [singleFrom, List.singleton_append, single_closed closed, List.append_nil]
  | cons character rest inductionHypothesis =>
      obtain ⟨isOrdinary_first, others⟩ := Bool.and_eq_true_iff.mp ordinary
      have readBack : IsSingleReadBack width indent tail (some character) rest :=
        fun _ fits column => inductionHypothesis others (tight_tail tight) fits column
      by_cases isMark : character = '\''
      · subst isMark
        exact readBack.mark gap previous column
      by_cases isEnd : character = '\n'
      · subst isEnd
        exact readBack.lineFeed indented tight fits column
      by_cases isSpace : character = ' '
      · subst isSpace
        exact readBack.space indented tight fits column
      · exact readBack.other isOrdinary_first isMark isEnd isSpace gap previous column

end SingleFrom

namespace Reader

section Double

variable {gap : Gap} {rest : List Char}

theorem double_closed : double gap ('"' :: rest) = some (gap.content, rest) := by
  rw [double.eq_def]
  simp

theorem double_blank : double gap (' ' :: rest) = double (gap.blank ' ') rest := by
  rw [double.eq_def]
  simp

theorem double_other {character : Char} (unescaped : needsEscape character = false)
    (notSpace : character ≠ ' ') :
    double gap (character :: rest) =
      behind (gap.content ++ [character]) (double (.line []) rest) := by
  have notTab : character ≠ '\t' := by rintro rfl; exact absurd unescaped (by decide)
  have notEnd : character ≠ '\n' := by rintro rfl; exact absurd unescaped (by decide)
  simp only [needsEscape, Bool.or_eq_false_iff, beq_eq_false_iff_ne] at unescaped
  rw [double.eq_def]
  simp [unescaped.1, notSpace, notTab, notEnd]

theorem double_letter {letter character : Char} (notEnd : letter ≠ '\n')
    (found : replacements.lookup letter = some character) :
    double gap ('\\' :: letter :: rest) =
      behind (gap.content ++ [character]) (double (.line []) rest) := by
  rw [double.eq_def]
  simp [notEnd, found]

/-- An escape by two, four or eight hexadecimal digits. -/
theorem double_code {letter : Char} {digits : List Char} {character : Char}
    (width : (letter, digits.length) ∈ [('x', 2), ('u', 4), ('U', 8)])
    (found : characterOf? digits = some character) :
    double gap ('\\' :: letter :: (digits ++ rest)) =
      behind (gap.content ++ [character]) (double (.line []) rest) := by
  simp only [List.mem_cons, List.not_mem_nil, or_false, Prod.mk.injEq] at width
  have noLetter : ∀ letter ∈ ['x', 'u', 'U'], replacements.lookup letter = none := by decide
  rcases width with ⟨rfl, two⟩ | ⟨rfl, four⟩ | ⟨rfl, eight⟩
  · obtain ⟨a, b, rfl⟩ := List.length_eq_two.mp two
    rw [double.eq_def]
    simp [noLetter, found]
  · obtain ⟨a, _, rfl⟩ := List.exists_cons_of_length_eq_add_one four
    obtain ⟨b, c, d, rfl⟩ := List.length_eq_three.mp (Nat.succ.inj four)
    rw [double.eq_def]
    simp [noLetter, found]
  · rcases digits with
      _ | ⟨a, _ | ⟨b, _ | ⟨c, _ | ⟨d, _ | ⟨e, _ | ⟨f, _ | ⟨g, _ | ⟨h, _ | _⟩⟩⟩⟩⟩⟩⟩⟩ <;>
      simp only [List.length_nil, List.length_cons] at eight <;> try omega
    rw [double.eq_def]
    simp [noLetter, found]

/-- The letter of a short escape is printable and stands for its character. -/
theorem lookup_escapeLetter? {character letter : Char}
    (found : escapeLetter? character = some letter) :
    letter ≠ '\n' ∧ isOrdinary letter = true ∧ replacements.lookup letter = some character := by
  have character_of : ∀ {code : Nat}, character.toNat = code → character = Char.ofNat code := by
    rintro _ rfl
    exact (Char.ofNat_toNat character).symm
  unfold escapeLetter? at found
  dsimp only at found
  repeat
    rcases ite_eq_iff.mp found with ⟨code, same⟩ | ⟨-, found⟩
    · obtain rfl := Option.some.inj same
      rw [character_of code]
      decide
  cases found

/-- A character is read from enough digits of its code. -/
theorem characterOf?_hexDigits {character : Char} {width : Nat}
    (wide : character.toNat < 16 ^ width) :
    characterOf? (Text.hexDigits .upper width character.toNat) = some character := by
  have isValid : character.toNat.isValidChar := character.valid
  simp only [characterOf?, Text.all_isHexDigit_hexDigits, Text.readDigits_hexDigits,
    Nat.mod_eq_of_lt wide, isValid, and_self, ↓reduceIte, Char.ofNat_toNat]

/-- An escape stands for its character. -/
theorem double_escape (character : Char) :
    double gap (escape character ++ rest) =
      behind (gap.content ++ [character]) (double (.line []) rest) := by
  unfold escape
  split
  next letter short =>
    obtain ⟨notEnd, -, found⟩ := lookup_escapeLetter? short
    exact double_letter notEnd found
  next =>
    have bounded : character.toNat < 16 ^ 8 := by
      have isValid : character.toNat.isValidChar := character.valid
      unfold Nat.isValidChar at isValid
      omega
    dsimp only
    split
    next small =>
      exact double_code (by simp [Text.length_hexDigits]) (characterOf?_hexDigits (by omega))
    next =>
      split
      next middle =>
        exact double_code (by simp [Text.length_hexDigits]) (characterOf?_hexDigits (by omega))
      next =>
        exact double_code (by simp [Text.length_hexDigits]) (characterOf?_hexDigits bounded)

/-- Blanks at the start of a line are passed over. -/
theorem double_indentation (escaped : Bool) (count indent : Nat) :
    double (.folded escaped count) (List.replicate indent ' ' ++ rest) =
      double (.folded escaped count) rest := by
  induction indent with
  | zero => rfl
  | succ indent inductionHypothesis =>
      rw [List.replicate_succ, List.cons_append, double_blank, Gap.blank_folded,
        inductionHypothesis]

/-- A new line behind a backslash stands for nothing. -/
theorem double_newLine {indent : Nat} (indented : 0 < indent) :
    double gap ('\\' :: (newLine indent ++ rest)) =
      behind gap.content (double (.folded true 0) rest) := by
  have unmarked := startsWithMark_indented indented rest
  rw [double.eq_def]
  simp [newLine, unmarked, double_indentation]

end Double

end Reader

/-- What the reader has not handed out yet of a text between double quotation marks, when `rest` is
still to come behind what was already written of it: blanks, or nothing at the start of a line. A
backslash keeps the space that starts a line, which must not be folded again. -/
inductive DoubleGap (width : Option Nat) (column : Nat) :
    (gap : Gap) → (written rest : List Char) → Prop where
  | blanks {blanks rest : List Char} : DoubleGap width column (.line blanks) [] rest
  | folded {rest : List Char} (notSpace : rest.head? ≠ some ' ') :
      DoubleGap width column (.folded true 0) [] rest
  | kept {rest : List Char} (fits : isOverfull width column = false) :
      DoubleGap width column (.folded true 0) ['\\'] (' ' :: rest)

/-- What is written of a text between double quotation marks is read back, whatever gap the reader
stands in. -/
def IsDoubleReadBack (width : Option Nat) (indent : Nat) (tail text : List Char) : Prop :=
  ∀ ⦃gap : Gap⦄ ⦃written : List Char⦄ ⦃column : Nat⦄, DoubleGap width column gap written text →
    ∀ atStart fresh : Bool,
      double gap (written ++ doubleFrom width indent column atStart fresh text ++ tail) =
        some (gap.content ++ text, tail)

namespace IsDoubleReadBack

variable {width : Option Nat} {indent column : Nat} {gap : Gap} {character : Char}
  {rest tail : List Char}

/-- A character that is handed out stands in front of what is read behind it. -/
theorem handed (gap : Gap) (character : Char) :
    behind (gap.content ++ [character]) (some (rest, tail)) =
      some (gap.content ++ character :: rest, tail) := by
  rw [behind_some, List.append_assoc, List.singleton_append]

/-- The rest of a text may stand on the line behind blanks. -/
theorem onLine (readBack : IsDoubleReadBack width indent tail rest) (blanks : List Char)
    (column : Nat) (fresh : Bool) :
    double (.line blanks) (doubleFrom width indent column false fresh rest ++ tail) =
      some (blanks ++ rest, tail) :=
  readBack .blanks false fresh

/-- An escape is read back, also where a new line follows it. -/
theorem escaped (indented : 0 < indent) (narrow : isOverfull width (indent + 1) = false)
    (readBack : IsDoubleReadBack width indent tail rest) (escapes : needsEscape character = true)
    (gap : Gap) (column : Nat) (atStart fresh : Bool) :
    double gap (doubleFrom width indent column atStart fresh (character :: rest) ++ tail) =
      some (gap.content ++ character :: rest, tail) := by
  rw [doubleFrom, if_pos escapes]
  dsimp only
  split
  next =>
    split
    next follows =>
      -- The backslash in front of a space is an escape of its own.
      obtain ⟨others, rfl⟩ : ∃ others, rest = ' ' :: others := by
        cases rest with
        | nil => cases follows
        | cons first others => exact ⟨others, by rw [Option.some.inj follows]⟩
      have resumed : double (.folded true 0)
          ('\\' :: (doubleFrom width indent (indent + 1) false true (' ' :: others) ++ tail)) =
            some (' ' :: others, tail) :=
        readBack (.kept narrow) false true
      simp only [List.append_assoc, List.cons_append]
      rw [double_escape, double_newLine indented, resumed]
      exact handed gap character
    next follows =>
      have resumed : double (.folded true 0)
          (doubleFrom width indent indent false true rest ++ tail) = some (rest, tail) :=
        readBack (.folded follows) false true
      simp only [List.append_assoc, List.cons_append]
      rw [double_escape, double_newLine indented, resumed]
      exact handed gap character
  next =>
    rw [List.append_assoc, double_escape, readBack.onLine]
    exact handed gap character

/-- A space is read back. One that a line starts with has a backslash in front. -/
theorem space (indented : 0 < indent) (readBack : IsDoubleReadBack width indent tail rest)
    (blanks : List Char) (column : Nat) (atStart fresh : Bool) :
    double (.line blanks) (doubleFrom width indent column atStart fresh (' ' :: rest) ++ tail) =
      some (blanks ++ ' ' :: rest, tail) := by
  rw [doubleFrom, if_neg (by decide)]
  split
  next =>
    simp only [↓reduceIte, List.append_assoc, List.cons_append]
    rw [double_newLine indented, double_letter (by decide) (by decide : _ = some ' '),
      readBack.onLine]
    rfl
  next =>
    rw [List.cons_append, double_blank, Gap.blank, readBack.onLine, List.append_assoc,
      List.singleton_append]

/-- Any other character stands for itself. -/
theorem unescaped (indented : 0 < indent) (readBack : IsDoubleReadBack width indent tail rest)
    (unescaped : needsEscape character = false) (notSpace : character ≠ ' ')
    (gap : Gap) (column : Nat) (atStart fresh : Bool) :
    double gap (doubleFrom width indent column atStart fresh (character :: rest) ++ tail) =
      some (gap.content ++ character :: rest, tail) := by
  rw [doubleFrom, if_neg (by rw [unescaped]; exact Bool.false_ne_true)]
  split
  next =>
    simp only [List.append_assoc, List.cons_append]
    rw [double_newLine indented, double_other unescaped notSpace, readBack.onLine]
    rfl
  next =>
    rw [List.cons_append, double_other unescaped notSpace, readBack.onLine]
    exact handed gap character

/-- A space that was kept by a backslash in front is not put on a new line again. -/
theorem kept (readBack : IsDoubleReadBack width indent tail rest)
    (fits : isOverfull width column = false) (atStart fresh : Bool) :
    double (.folded true 0)
        ('\\' :: (doubleFrom width indent column atStart fresh (' ' :: rest) ++ tail)) =
      some (' ' :: rest, tail) := by
  have stays : ¬((!atStart && !rest.isEmpty) = true ∧ (' ' = ' ' ∨ fresh = true) ∧
      isOverfull width column = true) :=
    fun folds => absurd folds.2.2 (by rw [fits]; decide)
  rw [doubleFrom, if_neg (by decide), if_neg stays, List.cons_append,
    double_letter (by decide) (by decide : _ = some ' '), readBack.onLine]
  rfl

/-- A text of no characters is read back: there is nothing in front of the closing mark. -/
theorem nil : IsDoubleReadBack width indent tail [] := by
  intro gap written column fits atStart fresh
  cases fits with
  | blanks | folded =>
      rw [doubleFrom, List.nil_append, List.singleton_append, double_closed, List.append_nil]

/-- With what follows it, a character is read back. -/
theorem cons (indented : 0 < indent) (narrow : isOverfull width (indent + 1) = false)
    (readBack : IsDoubleReadBack width indent tail rest) :
    IsDoubleReadBack width indent tail (character :: rest) := by
  intro gap written column fits atStart fresh
  cases escapes : needsEscape character with
  | true =>
      cases fits with
      | blanks | folded => exact readBack.escaped indented narrow escapes _ column atStart fresh
      | kept => exact absurd escapes (by decide)
  | false =>
      by_cases isSpace : character = ' '
      · subst isSpace
        cases fits with
        | blanks => exact readBack.space indented _ column atStart fresh
        | folded notSpace => exact absurd rfl notSpace
        | kept fits => exact readBack.kept fits atStart fresh
      · cases fits with
        | blanks | folded =>
            exact readBack.unescaped indented escapes isSpace _ column atStart fresh
        | kept => exact absurd rfl isSpace

end IsDoubleReadBack

/-- A text between double quotation marks is read back. -/
theorem double_doubleFrom {width : Option Nat} {indent : Nat} (indented : 0 < indent)
    (narrow : isOverfull width (indent + 1) = false) (tail : List Char) {text written : List Char}
    {gap : Gap} {column : Nat} (fits : DoubleGap width column gap written text)
    (atStart fresh : Bool) :
    double gap (written ++ doubleFrom width indent column atStart fresh text ++ tail) =
      some (gap.content ++ text, tail) := by
  suffices readBack : IsDoubleReadBack width indent tail text from readBack fits atStart fresh
  clear fits
  induction text with
  | nil => exact IsDoubleReadBack.nil
  | cons character rest inductionHypothesis =>
      exact IsDoubleReadBack.cons indented narrow inductionHypothesis

end ScriptCheck.Yaml
