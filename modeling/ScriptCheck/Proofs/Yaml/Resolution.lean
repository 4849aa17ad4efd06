import ScriptCheck.Proofs.Text.DigitReading
import ScriptCheck.Proofs.Yaml.Reader
import ScriptCheck.Yaml.Implicit

/-!
# Types of plain scalars

`Implicit.isTyped` decides by hand which texts have the form of another type, from the left and
without going back. It misses none: each form is taken apart into its pieces, and each step of the
decision passes over one piece. So a text that is written plain is read back as a text.
-/

namespace ScriptCheck.Yaml

open RegularExpression ScriptCheck.Text

namespace Form

variable {text : List Char}

theorem mem_digits (matched : text ∈ digits.matches') :
    ∀ character ∈ text, Implicit.isGrouped isDecimalDigit character = true := by
  have isGrouped : ∀ character ∈ "0123456789_".toList,
      Implicit.isGrouped isDecimalDigit character = true := by decide
  exact fun character mem => isGrouped character (mem_star_of.mp matched character mem)

/-- What starts with no sign is what is left of it behind a sign. -/
theorem dropSign_append (matched : text ∈ sign.matches') {unsigned : List Char}
    (noSign : ∀ first ∈ unsigned.head?, first ≠ '+' ∧ first ≠ '-') :
    Implicit.dropSign (text ++ unsigned) = unsigned := by
  rcases mem_maybe.mp matched with rfl | matched
  · cases unsigned with
    | nil => rfl
    | cons first rest =>
        obtain ⟨notPlus, notMinus⟩ := noSign first rfl
        simp [Implicit.dropSign, notPlus, notMinus]
  · obtain ⟨character, isSign, rfl⟩ := mem_of.mp matched
    rcases List.mem_cons.mp isSign with rfl | isSign
    · rfl
    · rw [List.mem_singleton.mp isSign]
      rfl

end Form

namespace Implicit

/-- Characters of a kind are dropped up to the first one that is not. -/
theorem dropWhile_append {kind : Char → Bool} {own rest : List Char}
    (inside : ∀ character ∈ own, kind character = true)
    (stops : ∀ first ∈ rest.head?, kind first = false) : (own ++ rest).dropWhile kind = rest := by
  rw [List.dropWhile_append_of_pos inside]
  cases rest with
  | nil => rfl
  | cons first rest => simp [stops first rfl]

theorem afterWhole?_append {first : Char} {own rest : List Char}
    (isDigit : isDecimalDigit first = true)
    (inside : ∀ character ∈ own, isGrouped isDecimalDigit character = true)
    (stops : ∀ first ∈ rest.head?, isGrouped isDecimalDigit first = false) :
    afterWhole? (first :: own ++ rest) = some rest := by
  rw [List.cons_append, afterWhole?, if_pos isDigit, dropWhile_append inside stops]

/-- A number of minutes or seconds behind its colon. -/
inductive Sixtieth : List Char → Prop where
  | ones {ones : Char} (isDigit : isDecimalDigit ones = true) : Sixtieth [':', ones]
  | tens {tens ones : Char} (isTens : tens ∈ "012345".toList)
      (isDigit : isDecimalDigit ones = true) : Sixtieth [':', tens, ones]

theorem sixtieth_of_mem {text : List Char}
    (matched : text ∈ (char ':' * Form.maybe (Form.of "012345") * Form.digit).matches') :
    Sixtieth text := by
  obtain ⟨_, ⟨_, rfl, _, hasTens, rfl⟩, _, hasOnes, rfl⟩ := Language.mem_mul.mp matched
  obtain ⟨ones, isDigit, rfl⟩ := Form.mem_digit hasOnes
  rcases Form.mem_maybe.mp hasTens with rfl | hasTens
  · exact .ones isDigit
  · obtain ⟨tens, isTens, rfl⟩ := Form.mem_of.mp hasTens
    exact .tens isTens isDigit

theorem afterSixtieth?_append {text rest : List Char} (matched : Sixtieth text)
    (stops : ∀ first ∈ rest.head?, isDecimalDigit first = false) :
    afterSixtieth? (text ++ rest) = some rest := by
  cases matched with
  | ones isDigit =>
      cases rest with
      | nil => simp [afterSixtieth?, isDigit]
      | cons first rest => simp [afterSixtieth?, isDigit, stops first rfl]
  | @tens tens ones isTens isDigit =>
      have inRange : ∀ tens ∈ "012345".toList, isDecimalDigit tens = true ∧ tens.toNat ≤ 53 := by
        decide
      simp [afterSixtieth?, isDigit, inRange tens isTens]

/-- Behind one number with its colon stands another one, or what stands behind them all. -/
theorem stops_of_sixtieths {pieces : List (List Char)} {rest : List Char}
    (each : ∀ piece ∈ pieces, Sixtieth piece)
    (stops : ∀ first ∈ rest.head?, isDecimalDigit first = false) :
    ∀ first ∈ (pieces.flatten ++ rest).head?, isDecimalDigit first = false := by
  cases pieces with
  | nil => exact stops
  | cons piece pieces =>
      have isPiece := each piece List.mem_cons_self
      cases isPiece <;>
      · rintro first ⟨⟩
        rfl

/-- What starts with no digit and no colon is what is left behind numbers with colons. -/
theorem afterSixtieths_append {pieces : List (List Char)} {rest : List Char}
    (each : ∀ piece ∈ pieces, Sixtieth piece)
    (stops : ∀ first ∈ rest.head?, isDecimalDigit first = false ∧ first ≠ ':') {steps : Nat}
    (enough : pieces.length ≤ steps) : afterSixtieths steps (pieces.flatten ++ rest) = rest := by
  induction pieces generalizing steps with
  | nil =>
      cases steps with
      | zero => rfl
      | succ steps =>
          have ended : afterSixtieth? rest = none := by
            cases rest with
            | nil => rfl
            | cons first rest => simp [afterSixtieth?, (stops first rfl).2]
          rw [afterSixtieths, List.flatten_nil, List.nil_append, ended]
  | cons piece pieces inductionHypothesis =>
      obtain ⟨steps, rfl⟩ := Nat.exists_eq_add_of_lt (Nat.lt_of_lt_of_le (Nat.succ_pos _) enough)
      rw [Nat.zero_add] at enough ⊢
      have others : ∀ piece ∈ pieces, Sixtieth piece :=
        fun piece mem => each piece (List.mem_cons_of_mem _ mem)
      have behind := stops_of_sixtieths others fun first isFirst => (stops first isFirst).1
      rw [afterSixtieths, List.flatten_cons, List.append_assoc,
        afterSixtieth?_append (each piece List.mem_cons_self) behind]
      exact inductionHypothesis others (Nat.le_of_succ_le_succ enough)

theorem length_le_of_sixtieths {pieces : List (List Char)}
    (each : ∀ piece ∈ pieces, Sixtieth piece) : pieces.length ≤ pieces.flatten.length := by
  induction pieces with
  | nil => exact Nat.le_refl _
  | cons piece pieces inductionHypothesis =>
      have others := inductionHypothesis fun piece mem => each piece (List.mem_cons_of_mem _ mem)
      have isPiece : 0 < piece.length := by
        cases each piece List.mem_cons_self <;> exact Nat.succ_pos _
      rw [List.flatten_cons, List.length_append, List.length_cons]
      omega

theorem afterSexagesimal?_append {text : List Char} (matched : text ∈ Form.sixtieths.matches')
    (rest : List Char)
    (stops : ∀ first ∈ rest.head?, isDecimalDigit first = false ∧ first ≠ ':') :
    afterSexagesimal? (text ++ rest) = some rest := by
  obtain ⟨piece, isPiece, _, others, rfl⟩ := Language.mem_mul.mp matched
  obtain ⟨pieces, rfl, each⟩ := Language.mem_kstar.mp others
  have each : ∀ piece ∈ pieces, Sixtieth piece :=
    fun piece mem => sixtieth_of_mem (each piece mem)
  have behind := stops_of_sixtieths each fun first isFirst => (stops first isFirst).1
  have enough : pieces.length ≤ (pieces.flatten ++ rest).length := by
    rw [List.length_append]
    exact Nat.le_add_right_of_le (length_le_of_sixtieths each)
  rw [afterSexagesimal?, List.append_assoc, afterSixtieth?_append (sixtieth_of_mem isPiece) behind,
    Option.map_some, afterSixtieths_append each stops enough]

/-- Numbers with colons start with one. -/
theorem exists_cons_of_sixtieths {text : List Char} (matched : text ∈ Form.sixtieths.matches') :
    ∃ rest, text = ':' :: rest := by
  obtain ⟨_, ⟨_, ⟨_, rfl, _, -, rfl⟩, _, -, rfl⟩, _, -, rfl⟩ := Language.mem_mul.mp matched
  exact ⟨_, rfl⟩

theorem isInteger_octal {text digits : List Char} (unsigned : dropSign text = '0' :: digits)
    (octal : digits.all (isGrouped isOctalDigit) = true) : isInteger text = true := by
  rw [isInteger, unsigned]
  split
  next same =>
    rw [(List.cons.inj same).2] at octal
    exact absurd octal Bool.false_ne_true
  next same =>
    rw [(List.cons.inj same).2] at octal
    exact absurd octal Bool.false_ne_true
  next same => rwa [← (List.cons.inj same).2]
  next notZero same => exact absurd (List.cons.inj same).1.symm notZero
  next same => cases same

theorem isInteger_decimal {text own : List Char} {first : Char} (behind : List Char)
    (unsigned : dropSign text = first :: (own ++ behind))
    (isFirst : isDecimalDigit first = true) (notZero : first ≠ '0')
    (inside : ∀ digit ∈ own, isGrouped isDecimalDigit digit = true)
    (ends : behind = [] ∨ behind ∈ Form.sixtieths.matches') : isInteger text = true := by
  have stops : ∀ next ∈ behind.head?, isGrouped isDecimalDigit next = false := by
    rcases ends with rfl | matched
    · rintro next ⟨⟩
    · obtain ⟨rest, rfl⟩ := exists_cons_of_sixtieths matched
      rintro next ⟨⟩
      decide
  rw [isInteger, unsigned]
  split
  next same => exact absurd (List.cons.inj same).1 notZero
  next same => exact absurd (List.cons.inj same).1 notZero
  next same => exact absurd (List.cons.inj same).1 notZero
  next same =>
    obtain ⟨rfl, rfl⟩ := List.cons.inj same
    rw [isFirst, Bool.true_and, dropWhile_append inside stops]
    split
    next => rfl
    next notEmpty =>
      have matched := ends.resolve_left notEmpty
      have read := afterSexagesimal?_append matched [] (by rintro next ⟨⟩)
      rw [List.append_nil] at read
      rw [read]
      rfl
  next same => cases same

/-- Behind a sign and the mark of its base an integer has one digit at least. -/
theorem exists_digits_of_mem {mark listed : String} {text : List Char}
    (matched : text ∈ (Form.sign * Form.word mark * Form.repeated (Form.of listed)).matches')
    (noSign : ∀ own : List Char, ∀ first ∈ (mark.toList ++ own).head?,
      first ≠ '+' ∧ first ≠ '-') :
    ∃ own, dropSign text = mark.toList ++ own ∧ own ≠ [] ∧
      ∀ digit ∈ own, digit ∈ listed.toList := by
  obtain ⟨_, ⟨signs, isSign, _, isWord, rfl⟩, own, isOwn, rfl⟩ := Language.mem_mul.mp matched
  obtain rfl := Form.mem_word.mp isWord
  obtain ⟨notEmpty, inside⟩ := Form.mem_repeated_of isOwn
  refine ⟨own, ?_, notEmpty, inside⟩
  rw [List.append_assoc, Form.dropSign_append isSign (noSign own)]

theorem isInteger_binary {text : List Char}
    (matched : text ∈
      (Form.sign * Form.word "0b" * Form.repeated (Form.of "01_")).matches') :
    isInteger text = true := by
  obtain ⟨own, unsigned, notEmpty, inside⟩ :=
    exists_digits_of_mem matched (by rintro own first ⟨⟩; decide)
  have isDigit : ∀ digit ∈ "01_".toList,
      isGrouped (fun digit => digit == '0' || digit == '1') digit = true := by decide
  have digits := List.all_eq_true.mpr fun digit mem => isDigit digit (inside digit mem)
  rw [isInteger, unsigned]
  simp [notEmpty, digits]

theorem isInteger_hexadecimal {text : List Char}
    (matched : text ∈
      (Form.sign * Form.word "0x" * Form.repeated (Form.of "0123456789abcdefABCDEF_")).matches') :
    isInteger text = true := by
  obtain ⟨own, unsigned, notEmpty, inside⟩ :=
    exists_digits_of_mem matched (by rintro own first ⟨⟩; decide)
  have isDigit : ∀ digit ∈ "0123456789abcdefABCDEF_".toList,
      isGrouped isHexDigit digit = true := by decide
  have digits := List.all_eq_true.mpr fun digit mem => isDigit digit (inside digit mem)
  rw [isInteger, unsigned]
  simp [notEmpty, digits]

/-- No integer is missed. -/
theorem isInteger_of_mem {text : List Char} (matched : text ∈ Tag.int.form.matches') :
    isInteger text = true := by
  simp only [Tag.form, matches'_add, Language.mem_add] at matched
  have isFirst : ∀ first ∈ "123456789".toList, isDecimalDigit first = true ∧ first ≠ '0' ∧
      first ≠ '+' ∧ first ≠ '-' := by decide
  rcases matched with (((binary | octal) | decimal) | hexadecimal) | sexagesimal
  · exact isInteger_binary binary
  · obtain ⟨_, ⟨signs, isSign, _, rfl, rfl⟩, own, isOwn, rfl⟩ := Language.mem_mul.mp octal
    obtain ⟨notEmpty, inside⟩ := Form.mem_repeated_of isOwn
    have isDigit : ∀ digit ∈ "01234567_".toList, isGrouped isOctalDigit digit = true := by decide
    rw [List.append_assoc]
    refine isInteger_octal (Form.dropSign_append isSign ?_) ?_
    · rintro first ⟨⟩
      decide
    · exact List.all_eq_true.mpr fun digit mem => isDigit digit (inside digit mem)
  · obtain ⟨signs, isSign, unsigned, isUnsigned, rfl⟩ := Language.mem_mul.mp decimal
    rcases isUnsigned with rfl | ⟨_, starts, own, isOwn, rfl⟩
    · exact isInteger_octal (Form.dropSign_append isSign (by rintro first ⟨⟩; decide)) rfl
    · obtain ⟨first, mem, rfl⟩ := Form.mem_of.mp starts
      obtain ⟨isDigit, notZero, noSign⟩ := isFirst first mem
      refine isInteger_decimal [] ?_ isDigit notZero (Form.mem_digits isOwn) (.inl rfl)
      rw [Form.dropSign_append isSign (by rintro first ⟨⟩; exact noSign), List.append_nil]
      rfl
  · exact isInteger_hexadecimal hexadecimal
  · obtain ⟨_, ⟨_, ⟨signs, isSign, _, starts, rfl⟩, own, isOwn, rfl⟩, behind, isBehind, rfl⟩ :=
      Language.mem_mul.mp sexagesimal
    obtain ⟨first, mem, rfl⟩ := Form.mem_of.mp starts
    obtain ⟨isDigit, notZero, noSign⟩ := isFirst first mem
    refine isInteger_decimal behind ?_ isDigit notZero (Form.mem_digits isOwn) (.inr isBehind)
    rw [List.append_assoc, List.append_assoc,
      Form.dropSign_append isSign (by rintro first ⟨⟩; exact noSign)]
    rfl

theorem isExponentOrEmpty_of_mem {text : List Char} (matched : text ∈ Form.exponent.matches') :
    isExponentOrEmpty text = true ∧
      ∀ first ∈ text.head?, isGrouped isDecimalDigit first = false := by
  rcases Form.mem_maybe.mp matched with rfl | matched
  · exact ⟨rfl, by rintro first ⟨⟩⟩
  · obtain ⟨_, ⟨_, hasMark, _, hasSign, rfl⟩, digits, isDigits, rfl⟩ :=
      Language.mem_mul.mp matched
    obtain ⟨mark, isMark, rfl⟩ := Form.mem_of.mp hasMark
    obtain ⟨sign, isSign, rfl⟩ := Form.mem_of.mp hasSign
    obtain ⟨notEmpty, inside⟩ := Form.mem_repeated_of isDigits
    have marks : ∀ mark ∈ "eE".toList, (mark == 'e' || mark == 'E') = true ∧
        isGrouped isDecimalDigit mark = false := by decide
    have signs : ∀ sign ∈ "-+".toList, (sign == '+' || sign == '-') = true := by decide
    have isDigit : ∀ digit ∈ "0123456789".toList, isDecimalDigit digit = true := by decide
    have all := List.all_eq_true.mpr fun digit mem => isDigit digit (inside digit mem)
    constructor
    · simp only [List.cons_append, List.nil_append, isExponentOrEmpty,
        (marks mark isMark).1, signs sign isSign, all, List.isEmpty_eq_false_iff.mpr notEmpty]
      rfl
    · rintro first ⟨⟩
      exact (marks mark isMark).2

/-- A number with a point, or with colons and a point, is a fraction. -/
theorem isFraction_of_whole {text own : List Char} {first : Char} (behind : List Char)
    (unsigned : dropSign text = first :: own ++ behind) (isFirst : isDecimalDigit first = true)
    (inside : ∀ digit ∈ own, isGrouped isDecimalDigit digit = true)
    (stops : ∀ next ∈ behind.head?, isGrouped isDecimalDigit next = false)
    (fraction : (∃ rest, behind = '.' :: rest ∧
        isExponentOrEmpty (rest.dropWhile (isGrouped isDecimalDigit)) = true) ∨
      ∃ sixtieths rest, behind = sixtieths ++ '.' :: rest ∧
        sixtieths ∈ Form.sixtieths.matches' ∧
          ∀ digit ∈ rest, isGrouped isDecimalDigit digit = true) : isFraction text = true := by
  have read := afterWhole?_append isFirst inside stops
  rw [isFraction.eq_def]
  simp only [unsigned, read]
  split
  next => rfl
  next =>
    rcases fraction with ⟨rest, rfl, exponent⟩ | ⟨sixtieths, rest, rfl, isSixtieths, digits⟩
    · simp only [exponent, Bool.true_or]
    · have all := List.all_eq_true.mpr digits
      have read := afterSexagesimal?_append isSixtieths ('.' :: rest) (by rintro next ⟨⟩; decide)
      obtain ⟨others, rfl⟩ := exists_cons_of_sixtieths isSixtieths
      simp only [Bool.or_eq_true]
      refine .inl (.inl (.inl (.inl ?_)))
      split
      next same => exact absurd (List.cons.inj (Option.some.inj same)).1 (by decide)
      next same => rw [← Option.some.inj same, read]; exact all
      next same => cases same

/-- A digit is no sign. -/
theorem ne_sign_of_isDecimalDigit {first : Char} (isDigit : isDecimalDigit first = true) :
    first ≠ '+' ∧ first ≠ '-' := by
  constructor <;> rintro rfl <;> exact absurd isDigit (by decide)

/-- A fraction may start with its point. -/
theorem isFraction_pointed {text : List Char}
    (matched : text ∈ (char '.' * Form.digit * Form.digits * Form.exponent).matches') :
    isFraction text = true := by
  obtain ⟨_, ⟨_, ⟨_, rfl, _, starts, rfl⟩, own, isOwn, rfl⟩, exponent, isExponent, rfl⟩ :=
    Language.mem_mul.mp matched
  obtain ⟨first, isDigit, rfl⟩ := Form.mem_digit starts
  obtain ⟨isExponent, stops⟩ := isExponentOrEmpty_of_mem isExponent
  have read := afterWhole?_append isDigit (Form.mem_digits isOwn) stops
  simp only [List.append_assoc, List.cons_append] at read ⊢
  simp only [isFraction, List.nil_append, read, isExponent, Bool.or_true, Bool.true_or]

/-- The infinities are fractions. -/
theorem isFraction_infinite {text : List Char}
    (matched : text ∈ (Form.sign * Form.anyWord [".inf", ".Inf", ".INF"]).matches') :
    isFraction text = true := by
  obtain ⟨signs, isSign, _, isWord, rfl⟩ := Language.mem_mul.mp matched
  obtain ⟨infinity, isInfinity, rfl⟩ := Form.mem_anyWord.mp isWord
  have infinities : ∀ infinity ∈ [".inf", ".Inf", ".INF"],
      (∀ first ∈ infinity.toList.head?, first ≠ '+' ∧ first ≠ '-') ∧
        (infinity.toList == ".inf".toList || infinity.toList == ".Inf".toList ||
          infinity.toList == ".INF".toList) = true := by decide
  obtain ⟨noSign, isWord⟩ := infinities infinity isInfinity
  have unsigned := Form.dropSign_append isSign noSign
  rw [isFraction.eq_def]
  simp only [unsigned, isWord, ↓reduceIte, Bool.true_or]

/-- No fraction is missed. -/
theorem isFraction_of_mem {text : List Char} (matched : text ∈ Tag.float.form.matches') :
    isFraction text = true := by
  simp only [Tag.form, matches'_add, Language.mem_add] at matched
  rcases matched with (((whole | pointed) | sexagesimal) | infinite) | notNumber
  · obtain ⟨_, ⟨_, ⟨_, ⟨_, ⟨signs, isSign, _, starts, rfl⟩, own, isOwn, rfl⟩, _, rfl, rfl⟩, rest,
      isRest, rfl⟩, exponent, isExponent, rfl⟩ := Language.mem_mul.mp whole
    obtain ⟨first, isDigit, rfl⟩ := Form.mem_digit starts
    obtain ⟨isExponent, stops⟩ := isExponentOrEmpty_of_mem isExponent
    refine isFraction_of_whole ('.' :: (rest ++ exponent)) ?_ isDigit (Form.mem_digits isOwn)
      (by rintro next ⟨⟩; decide) (.inl ⟨_, rfl, ?_⟩)
    · simp only [List.append_assoc]
      rw [Form.dropSign_append isSign
        (by rintro first ⟨⟩; exact ne_sign_of_isDecimalDigit isDigit)]
      rfl
    · rwa [dropWhile_append (Form.mem_digits isRest) stops]
  · exact isFraction_pointed pointed
  · obtain ⟨_, ⟨_, ⟨_, ⟨_, ⟨signs, isSign, _, starts, rfl⟩, own, isOwn, rfl⟩, sixtieths,
      isSixtieths, rfl⟩, _, rfl, rfl⟩, rest, isRest, rfl⟩ := Language.mem_mul.mp sexagesimal
    obtain ⟨first, isDigit, rfl⟩ := Form.mem_digit starts
    refine isFraction_of_whole (sixtieths ++ '.' :: rest) ?_ isDigit (Form.mem_digits isOwn) ?_
      (.inr ⟨sixtieths, rest, rfl, isSixtieths, Form.mem_digits isRest⟩)
    · simp only [List.append_assoc]
      rw [Form.dropSign_append isSign
        (by rintro first ⟨⟩; exact ne_sign_of_isDecimalDigit isDigit)]
      rfl
    · obtain ⟨others, rfl⟩ := exists_cons_of_sixtieths isSixtieths
      rintro next ⟨⟩
      decide
  · exact isFraction_infinite infinite
  · obtain ⟨characters, isWord, rfl⟩ := Form.mem_anyWord.mp notNumber
    clear notNumber
    revert isWord characters
    decide

/-- Digits, and how many of them. -/
structure IsDigits (least most : Nat) (text : List Char) : Prop where
  inside : ∀ digit ∈ text, isDecimalDigit digit = true
  enough : least ≤ text.length
  bounded : text.length ≤ most

theorem takeDigits?_append {least most : Nat} {own : List Char} (digits : IsDigits least most own)
    (rest : List Char)
    (stops : own.length = most ∨ ∀ first ∈ rest.head?, isDecimalDigit first = false) :
    takeDigits? least most (own ++ rest) = some rest := by
  have taken : ((own ++ rest).take most).takeWhile isDecimalDigit = own := by
    rw [List.take_append, List.take_of_length_le digits.bounded,
      List.takeWhile_append_of_pos digits.inside]
    rcases stops with all | stops
    · rw [all, Nat.sub_self, List.take_zero, List.takeWhile_nil, List.append_nil]
    · have ended : (rest.take (most - own.length)).takeWhile isDecimalDigit = [] := by
        cases rest with
        | nil => rw [List.take_nil, List.takeWhile_nil]
        | cons first rest =>
            cases most - own.length with
            | zero => rfl
            | succ count => simp [stops first rfl]
      rw [ended, List.append_nil]
  rw [takeDigits?.eq_def]
  simp only [taken, Nat.not_lt.mpr digits.enough, ↓reduceIte, List.drop_left]

theorem takeDigits?_two {tens ones : Char} (isTens : isDecimalDigit tens = true)
    (isOnes : isDecimalDigit ones = true) (rest : List Char) :
    takeDigits? 2 2 (tens :: ones :: rest) = some rest :=
  have digits : IsDigits 2 2 [tens, ones] := ⟨by simp [isTens, isOnes], by simp, by simp⟩
  takeDigits?_append digits rest (.inl rfl)

theorem isDigits_upToTwo {text : List Char} (matched : text ∈ Form.upToTwo.matches') :
    IsDigits 1 2 text := by
  obtain ⟨_, first, _, second, rfl⟩ := Language.mem_mul.mp matched
  obtain ⟨first, isFirst, rfl⟩ := Form.mem_digit first
  rcases Form.mem_maybe.mp second with rfl | second
  · exact ⟨by simpa using isFirst, by simp, by simp⟩
  · obtain ⟨second, isSecond, rfl⟩ := Form.mem_digit second
    exact ⟨by simp [isFirst, isSecond], by simp, by simp⟩

/-- Hours and minutes behind the sign of a time zone. -/
theorem read_offset {hours minutes : List Char} (isHours : hours ∈ Form.upToTwo.matches')
    (isMinutes : minutes ∈ (Form.maybe (char ':' * Form.digit * Form.digit)).matches') :
    takeDigits? 1 2 (hours ++ minutes) = some minutes ∧
      (minutes = [] ∨ (after? ':' minutes).bind (takeDigits? 2 2) = some []) := by
  rcases Form.mem_maybe.mp isMinutes with rfl | isMinutes
  · exact ⟨takeDigits?_append (isDigits_upToTwo isHours) _ (.inr (by rintro first ⟨⟩)), .inl rfl⟩
  · obtain ⟨_, ⟨_, rfl, _, tens, rfl⟩, _, ones, rfl⟩ := Language.mem_mul.mp isMinutes
    obtain ⟨tens, isTens, rfl⟩ := Form.mem_digit tens
    obtain ⟨ones, isOnes, rfl⟩ := Form.mem_digit ones
    constructor
    · exact takeDigits?_append (isDigits_upToTwo isHours) _ (.inr (by rintro first ⟨⟩; decide))
    · exact .inr (takeDigits?_two isTens isOnes [])

/-- A time zone may be an offset: hours, and minutes behind a colon. -/
theorem isZoneOrEmpty_offset {blanks hours minutes : List Char} {sign : Char}
    (unblanked : (blanks ++ sign :: (hours ++ minutes)).dropWhile
      (fun blank => blank == ' ' || blank == '\t') = sign :: (hours ++ minutes))
    (isSign : (sign == '+' || sign == '-') = true) (notZulu : sign ≠ 'Z')
    (isHours : hours ∈ Form.upToTwo.matches')
    (isMinutes : minutes ∈ (Form.maybe (char ':' * Form.digit * Form.digit)).matches') :
    isZoneOrEmpty (blanks ++ sign :: (hours ++ minutes)) = true := by
  obtain ⟨isRead, ended⟩ := read_offset isHours isMinutes
  rw [isZoneOrEmpty, unblanked]
  split
  next same => cases same
  next same => exact absurd (List.cons.inj same).1 notZulu
  next same =>
    obtain ⟨rfl, rfl⟩ := List.cons.inj same
    rw [isSign, isRead, Bool.true_and]
    split
    next => rfl
    next notEmpty same =>
      obtain rfl := Option.some.inj same
      rw [ended.resolve_left notEmpty]
      rfl
    next same => cases same

/-- No time zone is missed, and none starts with a digit or a point. -/
theorem isZoneOrEmpty_of_mem {text : List Char} (matched : text ∈ Form.zone.matches') :
    isZoneOrEmpty text = true ∧
      ∀ first ∈ text.head?, isDecimalDigit first = false ∧ first ≠ '.' := by
  rcases Form.mem_maybe.mp matched with rfl | matched
  · exact ⟨rfl, by rintro first ⟨⟩⟩
  · obtain ⟨blanks, isBlanks, mark, isMark, rfl⟩ := Language.mem_mul.mp matched
    have isBlank : ∀ blank ∈ " \t".toList, (blank == ' ' || blank == '\t') = true ∧
        isDecimalDigit blank = false ∧ blank ≠ '.' := by decide
    have inside := Form.mem_star_of.mp isBlanks
    have headed : ∀ {first : Char},
        (∀ next ∈ mark.head?, isDecimalDigit next = false ∧ next ≠ '.') →
          first ∈ (blanks ++ mark).head? → isDecimalDigit first = false ∧ first ≠ '.' := by
      intro first ofMark isFirst
      cases blanks with
      | nil => exact ofMark first isFirst
      | cons blank blanks =>
          cases isFirst
          exact (isBlank _ (inside _ List.mem_cons_self)).2
    have dropped : (∀ first ∈ mark.head?, (first == ' ' || first == '\t') = false) →
        (blanks ++ mark).dropWhile (fun blank => blank == ' ' || blank == '\t') = mark :=
      dropWhile_append fun blank mem => (isBlank blank (inside blank mem)).1
    rcases isMark with rfl | ⟨_, ⟨_, hasSign, hours, isHours, rfl⟩, minutes, isMinutes, rfl⟩
    · constructor
      · rw [isZoneOrEmpty, dropped (by rintro first ⟨⟩; decide)]
        rfl
      · intro first
        exact headed (by rintro first ⟨⟩; decide)
    · obtain ⟨sign, mem, rfl⟩ := Form.mem_of.mp hasSign
      have isSign : ∀ sign ∈ "-+".toList, (sign == '+' || sign == '-') = true ∧ sign ≠ 'Z' ∧
          (sign == ' ' || sign == '\t') = false ∧ isDecimalDigit sign = false ∧ sign ≠ '.' := by
        decide
      obtain ⟨signed, notZulu, notBlank, other⟩ := isSign sign mem
      constructor
      · exact isZoneOrEmpty_offset (dropped (by rintro first ⟨⟩; exact notBlank)) signed notZulu
          isHours isMinutes
      · intro first
        exact headed (by rintro first ⟨⟩; exact other)

/-- No time of day is missed. -/
theorem isTime_append {hours fraction zone : List Char} {m n s t : Char}
    (isHours : hours ∈ Form.upToTwo.matches') (isM : isDecimalDigit m = true)
    (isN : isDecimalDigit n = true) (isS : isDecimalDigit s = true) (isT : isDecimalDigit t = true)
    (isFraction : fraction ∈ (Form.maybe (char '.' * star Form.digit)).matches')
    (isZone : zone ∈ Form.zone.matches') :
    isTime (hours ++ ':' :: m :: n :: ':' :: s :: t :: (fraction ++ zone)) = true := by
  have isRead := takeDigits?_append (isDigits_upToTwo isHours)
    (':' :: m :: n :: ':' :: s :: t :: (fraction ++ zone))
    (.inr (by rintro first ⟨⟩; decide))
  obtain ⟨isZone, stops⟩ := isZoneOrEmpty_of_mem isZone
  have stopsDigits : ∀ first ∈ zone.head?, isDecimalDigit first = false :=
    fun first isFirst => (stops first isFirst).1
  simp only [isTime, isRead, after?, takeDigits?_two isM isN, takeDigits?_two isS isT,
    Option.bind_some, ↓reduceIte]
  rcases Form.mem_maybe.mp isFraction with rfl | ⟨_, rfl, digits, isDigits, rfl⟩
  · rw [List.nil_append]
    split
    next same => exact absurd rfl (stops '.' (by rw [Option.some.inj same]; rfl)).2
    next same => rwa [← Option.some.inj same]
    next same => cases same
  · have isDigit : ∀ digit ∈ "0123456789".toList, isDecimalDigit digit = true := by decide
    have inside : ∀ digit ∈ digits, isDecimalDigit digit = true :=
      fun digit mem => isDigit digit (Form.mem_star_of.mp isDigits digit mem)
    simp only [List.cons_append, List.nil_append]
    rw [dropWhile_append inside stopsDigits]
    exact isZone

/-- What follows a date. -/
theorem read_date {year month day : List Char} {least : Nat} (isYear : IsDigits 4 4 year)
    (isMonth : IsDigits least 2 month) (isDay : IsDigits least 2 day) (rest : List Char)
    (stops : day.length = 2 ∨ ∀ first ∈ rest.head?, isDecimalDigit first = false) :
    ((takeDigits? 4 4 (year ++ '-' :: (month ++ '-' :: (day ++ rest)))).bind (after? '-')
      |>.bind (takeDigits? least 2) |>.bind (after? '-') |>.bind (takeDigits? least 2)) =
        some rest := by
  have readMonth := takeDigits?_append isMonth ('-' :: (day ++ rest))
    (.inr (by rintro first ⟨⟩; decide))
  rw [takeDigits?_append isYear _ (.inr (by rintro first ⟨⟩; decide))]
  simp only [Option.bind_some, after?, ↓reduceIte, readMonth, takeDigits?_append isDay rest stops]

theorem isDigits_one {text : List Char} (matched : text ∈ Form.digit.matches') :
    IsDigits 1 1 text := by
  obtain ⟨digit, isDigit, rfl⟩ := Form.mem_digit matched
  exact ⟨by simpa using isDigit, Nat.le_refl _, Nat.le_refl _⟩

/-- Digits behind digits. -/
theorem IsDigits.append {least most others otherMost : Nat} {first second : List Char}
    (isFirst : IsDigits least most first) (isSecond : IsDigits others otherMost second) :
    IsDigits (least + others) (most + otherMost) (first ++ second) where
  inside digit mem := (List.mem_append.mp mem).elim (isFirst.inside digit) (isSecond.inside digit)
  enough := by
    rw [List.length_append]
    exact Nat.add_le_add isFirst.enough isSecond.enough
  bounded := by
    rw [List.length_append]
    exact Nat.add_le_add isFirst.bounded isSecond.bounded

/-- Between date and time of day stands a letter, or blanks do. -/
theorem mark_cases {text : List Char}
    (matched : text ∈ (Form.of "Tt" + Form.repeated (Form.of " \t")).matches') :
    ∃ first rest, text = first :: rest ∧ isDecimalDigit first = false ∧
      ((first = 'T' ∨ first = 't') ∧ rest = [] ∨
        ¬(first = 'T' ∨ first = 't') ∧ (first = ' ' ∨ first = '\t') ∧
          ∀ blank ∈ rest, (blank == ' ' || blank == '\t') = true) := by
  rcases matched with isLetter | isBlanks
  · obtain ⟨letter, mem, rfl⟩ := Form.mem_of.mp isLetter
    have letters : ∀ letter ∈ "Tt".toList, isDecimalDigit letter = false ∧
        (letter = 'T' ∨ letter = 't') := by decide
    obtain ⟨notDigit, isLetter⟩ := letters letter mem
    exact ⟨letter, [], rfl, notDigit, .inl ⟨isLetter, rfl⟩⟩
  · obtain ⟨notEmpty, inside⟩ := Form.mem_repeated_of isBlanks
    obtain ⟨first, rest, rfl⟩ := List.exists_cons_of_ne_nil notEmpty
    have blanks : ∀ blank ∈ " \t".toList, isDecimalDigit blank = false ∧
        ¬(blank = 'T' ∨ blank = 't') ∧ (blank = ' ' ∨ blank = '\t') ∧
          (blank == ' ' || blank == '\t') = true := by decide
    obtain ⟨notDigit, notLetter, isBlank, -⟩ := blanks first (inside first List.mem_cons_self)
    exact ⟨first, rest, rfl, notDigit, .inr ⟨notLetter, isBlank, fun blank mem =>
      (blanks blank (inside blank (List.mem_cons_of_mem _ mem))).2.2.2⟩⟩

/-- A year has four digits. -/
theorem isDigits_year {a b c d : List Char} (isA : a ∈ Form.digit.matches')
    (isB : b ∈ Form.digit.matches') (isC : c ∈ Form.digit.matches')
    (isD : d ∈ Form.digit.matches') : IsDigits 4 4 (a ++ b ++ c ++ d) :=
  (((isDigits_one isA).append (isDigits_one isB)).append (isDigits_one isC)).append
    (isDigits_one isD)

/-- A date without a time of day is a timestamp. -/
theorem isTimestamp_date {year month day : List Char} (isYear : IsDigits 4 4 year)
    (isMonth : IsDigits 2 2 month) (isDay : IsDigits 2 2 day) :
    isTimestamp (year ++ '-' :: (month ++ '-' :: day)) = true := by
  have read := read_date isYear isMonth isDay []
    (.inl (Nat.le_antisymm isDay.bounded isDay.enough))
  rw [List.append_nil] at read
  simp only [isTimestamp, read]
  rfl

/-- So is a date with one, behind a letter or blanks. -/
theorem isTimestamp_time {year month day mark time : List Char} (isYear : IsDigits 4 4 year)
    (isMonth : IsDigits 1 2 month) (isDay : IsDigits 1 2 day)
    (isMark : mark ∈ (Form.of "Tt" + Form.repeated (Form.of " \t")).matches')
    (isTime_time : isTime time = true)
    (starts : ∀ first ∈ time.head?, (first == ' ' || first == '\t') = false) :
    isTimestamp (year ++ '-' :: (month ++ '-' :: (day ++ (mark ++ time)))) = true := by
  obtain ⟨first, others, rfl, notDigit, isMark⟩ := mark_cases isMark
  have read := read_date isYear isMonth isDay (first :: others ++ time)
    (.inr (by rintro next ⟨⟩; exact notDigit))
  rw [List.cons_append] at read
  simp only [isTimestamp, List.cons_append, read, Bool.or_eq_true]
  refine .inr ?_
  rcases isMark with ⟨isLetter, rfl⟩ | ⟨notLetter, isBlank, blanks⟩
  · rw [if_pos isLetter, List.nil_append]
    exact isTime_time
  · rw [if_neg notLetter, if_pos isBlank, dropWhile_append blanks starts]
    exact isTime_time

/-- No timestamp is missed. -/
theorem isTimestamp_of_mem {text : List Char} (matched : text ∈ Tag.timestamp.form.matches') :
    isTimestamp text = true := by
  simp only [Tag.form, matches'_add, Language.mem_add] at matched
  rcases matched with date | time
  · obtain ⟨_, ⟨_, ⟨_, ⟨_, ⟨_, ⟨_, ⟨_, ⟨_, ⟨a, isA, b, isB, rfl⟩, c, isC, rfl⟩, d, isD, rfl⟩, _,
      rfl, rfl⟩, m, isM, rfl⟩, n, isN, rfl⟩, _, rfl, rfl⟩, s, isS, rfl⟩, t, isT, rfl⟩ :=
        Language.mem_mul.mp date
    have isDate := isTimestamp_date (isDigits_year isA isB isC isD)
      ((isDigits_one isM).append (isDigits_one isN)) ((isDigits_one isS).append (isDigits_one isT))
    simpa only [List.append_assoc, List.cons_append, List.nil_append] using isDate
  · obtain ⟨_, ⟨_, ⟨_, ⟨_, ⟨_, ⟨_, ⟨_, ⟨_, ⟨_, ⟨_, ⟨_, ⟨_, ⟨_, ⟨_, ⟨_, ⟨_, ⟨a, isA, b, isB, rfl⟩, c,
      isC, rfl⟩, d, isD, rfl⟩, _, rfl, rfl⟩, month, isMonth, rfl⟩, _, rfl, rfl⟩, day, isDay, rfl⟩,
      mark, isMark, rfl⟩, hours, isHours, rfl⟩, _, rfl, rfl⟩, _, hasM, rfl⟩, _, hasN, rfl⟩, _, rfl,
      rfl⟩, _, hasS, rfl⟩, _, hasT, rfl⟩, fraction, isFraction, rfl⟩, zone, isZone, rfl⟩ :=
        Language.mem_mul.mp time
    obtain ⟨m, isM, rfl⟩ := Form.mem_digit hasM
    obtain ⟨n, isN, rfl⟩ := Form.mem_digit hasN
    obtain ⟨s, isS, rfl⟩ := Form.mem_digit hasS
    obtain ⟨t, isT, rfl⟩ := Form.mem_digit hasT
    have starts : ∀ first ∈ (hours ++ ':' :: m :: n :: ':' :: s :: t :: (fraction ++ zone)).head?,
        (first == ' ' || first == '\t') = false := by
      have digits := isDigits_upToTwo isHours
      obtain ⟨tens, rest, rfl⟩ := List.exists_cons_of_length_pos digits.enough
      have isTens := digits.inside tens List.mem_cons_self
      rintro next ⟨⟩
      rw [Bool.or_eq_false_iff, beq_eq_false_iff_ne, beq_eq_false_iff_ne]
      constructor <;> rintro rfl <;> exact absurd isTens (by decide)
    have isBoth := isTimestamp_time (isDigits_year isA isB isC isD) (isDigits_upToTwo isMonth)
      (isDigits_upToTwo isDay) isMark
      (isTime_append isHours isM isN isS isT isFraction isZone) starts
    simpa only [List.append_assoc, List.cons_append, List.nil_append] using isBoth

end Implicit

namespace Tag

/-- No word is missed. -/
theorem mem_words_of_mem {text : List Char} {words : List String}
    (known : ∀ characters ∈ words, characters ∈ Implicit.words)
    (matched : text ∈ (Form.anyWord words).matches') : String.ofList text ∈ Implicit.words := by
  obtain ⟨characters, isWord, rfl⟩ := Form.mem_anyWord.mp matched
  rw [String.ofList_toList]
  exact known characters isWord

/-- A text of another type is known as one. -/
theorem isTyped_of_mem {tag : Tag} {text : List Char} (matched : text ∈ tag.form.matches') :
    Implicit.isTyped text = true := by
  have ofWords : String.ofList text ∈ Implicit.words → Implicit.isTyped text = true := by
    intro isWord
    rw [Implicit.isTyped, List.contains_iff_mem.mpr isWord]
    rfl
  cases tag with
  | bool => exact ofWords (mem_words_of_mem (by decide) matched)
  | float =>
      simp only [Implicit.isTyped, Implicit.isFraction_of_mem matched, Bool.or_true, Bool.true_or]
  | int =>
      simp only [Implicit.isTyped, Implicit.isInteger_of_mem matched, Bool.or_true, Bool.true_or]
  | merge => exact ofWords (by rw [Form.mem_word.mp matched]; decide)
  | null => exact ofWords (mem_words_of_mem (by decide) matched)
  | timestamp => simp only [Implicit.isTyped, Implicit.isTimestamp_of_mem matched, Bool.or_true]
  | value => exact ofWords (by rw [Form.mem_word.mp matched]; decide)
  | yaml => exact ofWords (mem_words_of_mem (by decide) matched)

/-- A text that is not known as one of another type has none. -/
theorem ofPlain?_eq_none {text : List Char} (untyped : Implicit.isTyped text = false) :
    ofPlain? text = none := by
  refine List.find?_eq_none.mpr fun tag _ matched => ?_
  rw [isTyped_of_mem ((rmatch_iff_matches' _ _).mp matched)] at untyped
  exact Bool.noConfusion untyped

end Tag

/-- A text that is not known as one of another type is a text. -/
theorem Node.ofPlain_eq_text {text : List Char} (untyped : Implicit.isTyped text = false) :
    ofPlain text = .scalar none text := by
  rw [ofPlain, Tag.ofPlain?_eq_none untyped]

end ScriptCheck.Yaml
