import Mathlib.Data.List.Basic
import ScriptCheck.Proofs.Text.DigitReading
import ScriptCheck.Text.Quoted

/-!
# Quoted texts are read back

The first character of a quoted text is the mark that closes it, and between the marks a character
that does not stand for itself starts with a backslash. So the text is found again by a reader that
knows nothing of the table of printable characters: `read_write`. An escape is told by its letter,
which also says how many digits belong to it.
-/

namespace ScriptCheck.Text.Quoted

/-- The characters that may stand around a text. -/
def IsMark (character : Char) : Prop := character = '\'' ∨ character = '"'

instance : DecidablePred IsMark := fun character =>
  inferInstanceAs (Decidable (character = '\'' ∨ character = '"'))

/-- What a reader is in the middle of between two marks: nothing, an escape behind its backslash, or
a code. Of a code some digits are still to come behind the next one, and the others have a value. -/
inductive Stage where
  | plain
  | escape
  | code (further value : Nat)
  deriving DecidableEq, Repr

/-- The characters that single letters stand for behind a backslash. -/
def replacements : List (Char × Char) :=
  [('\\', '\\'), ('\'', '\''), ('"', '"'), ('n', '\n'), ('r', '\r'), ('t', '\t')]

/-- The letters of numeric escapes, with the number of digits behind the first one. -/
def codeLetters : List (Char × Nat) := [('x', 1), ('u', 3), ('U', 7)]

/-- What was read, with a character in front. -/
def behind (character : Char) (read : Option (List Char × List Char)) :
    Option (List Char × List Char) :=
  read.map fun (others, rest) => (character :: others, rest)

/-- Read a text up to the mark that closes it. -/
def readUntil (mark : Char) : Stage → List Char → Option (List Char × List Char)
  | _, [] => none
  | .plain, character :: rest =>
      if character = mark then some ([], rest)
      else if character = '\\' then readUntil mark .escape rest
      else behind character (readUntil mark .plain rest)
  | .escape, letter :: rest =>
      match replacements.lookup letter, codeLetters.lookup letter with
      | some character, _ => behind character (readUntil mark .plain rest)
      | none, some further => readUntil mark (.code further 0) rest
      | none, none => none
  | .code further value, digit :: rest =>
      match hexValue? digit, further with
      | none, _ => none
      | some last, 0 =>
          let code := 16 * value + last
          if code.isValidChar then behind (Char.ofNat code) (readUntil mark .plain rest) else none
      | some next, further + 1 => readUntil mark (.code further (16 * value + next)) rest

/-- Read a quoted text, and give what stands behind it. -/
def read : List Char → Option (List Char × List Char)
  | [] => none
  | mark :: rest => if IsMark mark then readUntil mark .plain rest else none

theorem isMark_mark (text : List Char) : IsMark (mark text) := by
  unfold mark
  split
  · exact .inr rfl
  · exact .inl rfl

section ReadUntil

variable {mark : Char} {rest : List Char}

theorem readUntil_closed : readUntil mark .plain (mark :: rest) = some ([], rest) := if_pos rfl

theorem readUntil_itself {character : Char} (notMark : character ≠ mark)
    (notBackslash : character ≠ '\\') :
    readUntil mark .plain (character :: rest) =
      behind character (readUntil mark .plain rest) := by
  rw [readUntil, if_neg notMark, if_neg notBackslash]

/-- A backslash starts an escape, as it is no mark. -/
theorem readUntil_backslash (isMark : IsMark mark) :
    readUntil mark .plain ('\\' :: rest) = readUntil mark .escape rest := by
  rcases isMark with rfl | rfl <;> rfl

/-- A letter behind a backslash stands for its character. -/
theorem readUntil_letter (isMark : IsMark mark) {letter character : Char}
    (found : replacements.lookup letter = some character) :
    readUntil mark .plain ('\\' :: letter :: rest) =
      behind character (readUntil mark .plain rest) := by
  rw [readUntil_backslash isMark, readUntil, found]

/-- A code is read digit by digit; the value of those before is carried along. -/
theorem readUntil_code {digits : List Char} (hex : digits.all isHexDigit = true)
    {further value : Nat} (long : digits.length = further + 1) {character : Char}
    (denoted : digits.foldl (fun total digit => 16 * total + (hexValue? digit).getD 0) value =
      character.toNat) :
    readUntil mark (.code further value) (digits ++ rest) =
      behind character (readUntil mark .plain rest) := by
  induction digits generalizing further value with
  | nil => cases long
  | cons digit digits inductionHypothesis =>
      obtain ⟨isDigit, others⟩ := Bool.and_eq_true_iff.mp hex
      obtain ⟨next, isNext⟩ := Option.isSome_iff_exists.mp isDigit
      rw [List.foldl_cons, isNext, Option.getD_some] at denoted
      -- The last digit completes the code; with any other the value grows and the count falls.
      cases further with
      | zero =>
          obtain rfl : digits = [] := List.length_eq_zero_iff.mp (Nat.succ.inj long)
          have code : 16 * value + next = character.toNat := denoted
          have isValid : character.toNat.isValidChar := character.valid
          simp only [List.cons_append, List.nil_append, readUntil, isNext, code, isValid,
            ↓reduceIte, Char.ofNat_toNat]
      | succ further =>
          simp only [List.cons_append, readUntil, isNext]
          exact inductionHypothesis others (Nat.succ.inj long) denoted

/-- A numeric escape with enough digits is read as its character. -/
theorem readUntil_hexDigits (isMark : IsMark mark) {letter : Char} {further : Nat}
    {character : Char} (named : (letter, further) ∈ codeLetters)
    (wide : character.toNat < 16 ^ (further + 1)) :
    readUntil mark .plain
        ('\\' :: letter :: (hexDigits .lower (further + 1) character.toNat ++ rest)) =
      behind character (readUntil mark .plain rest) := by
  have found : ∀ entry ∈ codeLetters, replacements.lookup entry.1 = none ∧
      codeLetters.lookup entry.1 = some entry.2 := by decide
  obtain ⟨noCharacter, digits⟩ := found _ named
  have denoted : readDigits 16 (hexDigits .lower (further + 1) character.toNat) =
      character.toNat := by
    rw [readDigits_hexDigits, Nat.mod_eq_of_lt wide]
  rw [readUntil_backslash isMark, readUntil, noCharacter, digits]
  exact readUntil_code (all_isHexDigit_hexDigits _ _ _) (length_hexDigits _ _ _) denoted

/-- The shortest numeric escape of a character has enough digits. -/
theorem readUntil_codeEscape (isMark : IsMark mark) (character : Char) :
    readUntil mark .plain (codeEscape character.toNat ++ rest) =
      behind character (readUntil mark .plain rest) := by
  have bounded : character.toNat < 16 ^ 8 := character.val.toNat_lt
  unfold codeEscape
  split
  next small => exact readUntil_hexDigits isMark (by decide : ('x', 1) ∈ codeLetters) small
  next =>
    split
    next middle => exact readUntil_hexDigits isMark (by decide : ('u', 3) ∈ codeLetters) middle
    next => exact readUntil_hexDigits isMark (by decide : ('U', 7) ∈ codeLetters) bounded

/-- However a character is written, it is read back. -/
theorem readUntil_escape (isMark : IsMark mark) (printable : Char → Bool) (character : Char) :
    readUntil mark .plain (escape printable mark character ++ rest) =
      behind character (readUntil mark .plain rest) := by
  unfold escape
  split
  next marked =>
    refine readUntil_letter isMark ?_
    rcases marked with rfl | rfl
    · rcases isMark with rfl | rfl <;> rfl
    · rfl
  next unmarked =>
    rw [not_or] at unmarked
    split
    next isFeed => exact readUntil_letter isMark (by rw [isFeed]; rfl)
    split
    next isReturn => exact readUntil_letter isMark (by rw [isReturn]; rfl)
    split
    next isTab => exact readUntil_letter isMark (by rw [isTab]; rfl)
    split
    next shown => exact readUntil_itself unmarked.1 unmarked.2
    next hidden => exact readUntil_codeEscape isMark character

/-- A text is read back up to the mark that closes it. -/
theorem readUntil_flatMap (isMark : IsMark mark) (printable : Char → Bool) (text : List Char) :
    readUntil mark .plain (text.flatMap (escape printable mark) ++ mark :: rest) =
      some (text, rest) := by
  induction text with
  | nil => exact readUntil_closed
  | cons character text inductionHypothesis =>
      rw [List.flatMap_cons, List.append_assoc, readUntil_escape isMark, inductionHypothesis]
      rfl

end ReadUntil

/-- A quoted text is read back, whichever characters are printable and whatever stands behind. -/
theorem read_write (printable : Char → Bool) (text rest : List Char) :
    read (write printable text ++ rest) = some (text, rest) := by
  have isMark := isMark_mark text
  rw [write, List.cons_append, List.cons_append, List.append_assoc, List.singleton_append, read,
    if_pos isMark]
  exact readUntil_flatMap isMark printable text

/-- No two texts are quoted alike. -/
theorem write_injective (printable : Char → Bool) : Function.Injective (write printable) := by
  intro text other same
  have first := read_write printable text []
  rw [same, read_write printable other []] at first
  cases first
  rfl

end ScriptCheck.Text.Quoted
