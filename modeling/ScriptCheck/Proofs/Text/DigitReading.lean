import Mathlib.Algebra.Group.Nat.Defs
import Mathlib.Data.Nat.Basic
import ScriptCheck.Text.Digits

/-!
# Numbers in digits are read back

Digits are read from the left and written from the right, so both meet at the last digit:
`readDigits_append_singleton` takes one off what is read, and each theorem is an induction over what
was written.
-/

namespace ScriptCheck

-- What holds of each character of a text is decided by going through the text, not through all
-- characters.
attribute [scoped instance (high)] List.decidableBAll List.decidableBEx Option.decidableForallMem

namespace Text

/-- One more digit behind others. -/
theorem readDigits_append_singleton (base : Nat) (digits : List Char) (digit : Char) :
    readDigits base (digits ++ [digit]) =
      base * readDigits base digits + (hexValue? digit).getD 0 := by
  rw [readDigits, List.foldl_append, List.foldl_cons, List.foldl_nil, ← readDigits]

/-- A hexadecimal digit has the value that it was written for. -/
theorem hexValue?_hexDigit (letters : HexCase) {value : Nat} (small : value < 16) :
    hexValue? (hexDigit letters value) = some value := by
  revert value
  cases letters <;> decide

theorem length_hexDigits (letters : HexCase) (width value : Nat) :
    (hexDigits letters width value).length = width := by
  induction width generalizing value with
  | zero => rfl
  | succ width inductionHypothesis =>
      rw [hexDigits, List.length_append, inductionHypothesis, List.length_singleton]

/-- All that is written in hexadecimal digits are such digits. -/
theorem all_isHexDigit_hexDigits (letters : HexCase) (width value : Nat) :
    (hexDigits letters width value).all isHexDigit = true := by
  induction width generalizing value with
  | zero => rfl
  | succ width inductionHypothesis =>
      have last : isHexDigit (hexDigit letters (value % 16)) = true := by
        rw [isHexDigit, hexValue?_hexDigit letters (Nat.mod_lt _ (by decide))]
        rfl
      rw [hexDigits, List.all_append, inductionHypothesis, List.all_cons, last]
      rfl

/-- Hexadecimal digits are read back, if there are enough of them. -/
theorem readDigits_hexDigits (letters : HexCase) (width value : Nat) :
    readDigits 16 (hexDigits letters width value) = value % 16 ^ width := by
  induction width generalizing value with
  | zero => rw [Nat.pow_zero, Nat.mod_one]; rfl
  | succ width inductionHypothesis =>
      rw [hexDigits, readDigits_append_singleton, inductionHypothesis,
        hexValue?_hexDigit letters (Nat.mod_lt _ (by decide)), Option.getD_some, Nat.pow_succ',
        Nat.mod_mul, Nat.add_comm]

/-- Decimal digits are read back. -/
theorem readDigits_decimal (value : Nat) : readDigits 10 (decimal value) = value := by
  have value_digitChar : ∀ digit < 10, (hexValue? (Nat.digitChar digit)).getD 0 = digit := by
    decide
  induction value using Nat.strongRecOn with
  | ind value inductionHypothesis =>
      unfold decimal at inductionHypothesis ⊢
      by_cases small : value < 10
      · rw [Nat.toDigits_of_lt_base small]
        exact (Nat.zero_add _).trans (value_digitChar value small)
      · rw [Nat.toDigits_of_base_le (by decide) (Nat.le_of_not_lt small),
          readDigits_append_singleton, inductionHypothesis (value / 10) (by omega),
          value_digitChar _ (Nat.mod_lt _ (by decide))]
        omega

/-- A number above zero is written in decimal digits, of which the first is not zero. -/
theorem decimal_eq_cons {value : Nat} (positive : 0 < value) :
    ∃ first rest, decimal value = first :: rest ∧ first ∈ "123456789".toList ∧
      ∀ digit ∈ rest, digit ∈ "0123456789".toList := by
  have first_mem : ∀ digit < 10, 0 < digit → Nat.digitChar digit ∈ "123456789".toList := by decide
  have last_mem : ∀ digit < 10, Nat.digitChar digit ∈ "0123456789".toList := by decide
  induction value using Nat.strongRecOn with
  | ind value inductionHypothesis =>
      unfold decimal at inductionHypothesis ⊢
      by_cases small : value < 10
      · refine ⟨_, [], Nat.toDigits_of_lt_base small, first_mem value small positive, ?_⟩
        intro digit mem
        cases mem
      · obtain ⟨first, rest, written, first_mem, rest_mem⟩ :=
          inductionHypothesis (value / 10) (by omega) (by omega)
        refine ⟨first, rest ++ [Nat.digitChar (value % 10)], ?_, first_mem, ?_⟩
        · rw [Nat.toDigits_of_base_le (by decide) (Nat.le_of_not_lt small), written,
            List.cons_append]
        · intro digit mem
          rcases List.mem_append.mp mem with inRest | isLast
          · exact rest_mem digit inRest
          · rw [List.mem_singleton.mp isLast]
            exact last_mem _ (Nat.mod_lt _ (by decide))

/-- A number is written as zero, or from a digit above zero on. -/
theorem decimal_cases (value : Nat) :
    (value = 0 ∧ decimal value = ['0']) ∨
      ∃ first rest, decimal value = first :: rest ∧ first ∈ "123456789".toList ∧
        ∀ digit ∈ rest, digit ∈ "0123456789".toList := by
  cases Nat.eq_zero_or_pos value with
  | inl isZero =>
      subst isZero
      exact .inl ⟨rfl, Nat.toDigits_zero 10⟩
  | inr positive => exact .inr (decimal_eq_cons positive)

theorem decimal_ne_nil (value : Nat) : decimal value ≠ [] := Nat.toDigits_ne_nil

theorem mem_decimal {value : Nat} {digit : Char} (mem : digit ∈ decimal value) :
    digit ∈ "0123456789".toList := by
  have firsts : ∀ digit ∈ "123456789".toList, digit ∈ "0123456789".toList := by decide
  rcases decimal_cases value with ⟨-, written⟩ | ⟨first, rest, written, isFirst, inside⟩
  · rw [written, List.mem_singleton] at mem
    rw [mem]
    decide
  · rw [written, List.mem_cons] at mem
    rcases mem with rfl | mem
    · exact firsts _ isFirst
    · exact inside digit mem

/-- An integer is written as its magnitude, behind a minus sign below zero. -/
theorem signedDecimal_cases (value : Int) :
    (signedDecimal value = decimal value.natAbs ∧ value = value.natAbs) ∨
      (signedDecimal value = '-' :: decimal value.natAbs ∧ value = -value.natAbs) := by
  rw [signedDecimal]
  split
  next => exact .inr ⟨rfl, by omega⟩
  next => exact .inl ⟨rfl, by omega⟩

/-- The characters of an integer. -/
theorem mem_signedDecimal {value : Int} {character : Char} (mem : character ∈ signedDecimal value) :
    character ∈ "-0123456789".toList := by
  rcases signedDecimal_cases value with ⟨written, -⟩ | ⟨written, -⟩ <;> rw [written] at mem
  · exact List.mem_cons_of_mem _ (mem_decimal mem)
  · rcases List.mem_cons.mp mem with rfl | mem
    · decide
    · exact List.mem_cons_of_mem _ (mem_decimal mem)

theorem signedDecimal_ne_nil (value : Int) : signedDecimal value ≠ [] := by
  rcases signedDecimal_cases value with ⟨written, -⟩ | ⟨written, -⟩ <;> rw [written]
  · exact decimal_ne_nil _
  · exact List.cons_ne_nil _ _

/-- No two integers are written alike. -/
theorem signedDecimal_injective : Function.Injective signedDecimal := by
  have noSign (value : Nat) : '-' ∉ decimal value := fun mem => absurd (mem_decimal mem) (by decide)
  have magnitude {first second : Nat} (same : decimal first = decimal second) : first = second := by
    rw [← readDigits_decimal first, same, readDigits_decimal]
  intro first second same
  rcases signedDecimal_cases first with ⟨written, isFirst⟩ | ⟨written, isFirst⟩ <;>
    rcases signedDecimal_cases second with ⟨others, isSecond⟩ | ⟨others, isSecond⟩ <;>
    rw [written, others] at same
  · rw [isFirst, isSecond, magnitude same]
  · exact absurd (same ▸ List.mem_cons_self) (noSign first.natAbs)
  · exact absurd (same ▸ List.mem_cons_self) (noSign second.natAbs)
  · rw [isFirst, isSecond, magnitude (List.cons.inj same).2]

/-- Read digits, one at least, and give what stands behind them. -/
def readNatural (text : List Char) : Option (Nat × List Char) :=
  let digits := text.takeWhile isDecimalDigit
  if digits.isEmpty then none else some (readDigits 10 digits, text.dropWhile isDecimalDigit)

/-- Read an integer, and give what stands behind it. -/
def readInteger : List Char → Option (Int × List Char)
  | '-' :: rest => (readNatural rest).map fun (value, rest) => (-(value : Int), rest)
  | text => (readNatural text).map fun (value, rest) => ((value : Int), rest)

/-- A number is read back up to a character that is no digit. -/
theorem readNatural_decimal (value : Nat) {next : Char} (ends : isDecimalDigit next = false)
    (rest : List Char) :
    readNatural (decimal value ++ next :: rest) = some (value, next :: rest) := by
  have areDigits : ∀ digit ∈ "0123456789".toList, isDecimalDigit digit = true := by decide
  have inside : ∀ digit ∈ decimal value, isDecimalDigit digit = true :=
    fun digit mem => areDigits digit (mem_decimal mem)
  have taken : (decimal value ++ next :: rest).takeWhile isDecimalDigit = decimal value := by
    rw [List.takeWhile_append_of_pos inside, List.takeWhile_cons_of_neg (by simp [ends]),
      List.append_nil]
  have left : (decimal value ++ next :: rest).dropWhile isDecimalDigit = next :: rest := by
    rw [List.dropWhile_append_of_pos inside, List.dropWhile_cons_of_neg (by simp [ends])]
  rw [readNatural, taken, left, if_neg (by simp [decimal_ne_nil]), readDigits_decimal]

/-- An integer is read back up to a character that is no digit. -/
theorem readInteger_signedDecimal (value : Int) {next : Char} (ends : isDecimalDigit next = false)
    (rest : List Char) :
    readInteger (signedDecimal value ++ next :: rest) = some (value, next :: rest) := by
  have read := readNatural_decimal value.natAbs ends rest
  rcases signedDecimal_cases value with ⟨written, same⟩ | ⟨written, same⟩ <;> rw [written]
  · rw [readInteger.eq_def]
    split
    next signed =>
      obtain ⟨first, others, isFirst⟩ := List.exists_cons_of_ne_nil (decimal_ne_nil value.natAbs)
      rw [isFirst, List.cons_append, List.cons.injEq] at signed
      exact absurd (mem_decimal (signed.1 ▸ isFirst ▸ List.mem_cons_self)) (by decide)
    next =>
      rw [read]
      exact congrArg (fun value => some (value, next :: rest)) same.symm
  · rw [List.cons_append, readInteger, read]
    exact congrArg (fun value => some (value, next :: rest)) same.symm

end Text

end ScriptCheck
