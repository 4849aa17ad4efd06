import ScriptCheck.Proofs.Yaml.Resolution

/-!
# Integers are read back

An integer is written in decimal digits without a leading zero. That is the form of an integer, and
of no type whose form is tried before that one. It is read as the same integer, where a machine
converts so many digits at all.
-/

namespace ScriptCheck.Yaml

open RegularExpression ScriptCheck.Text

namespace Tag

theorem point_mem_of_float {text : List Char} (matched : text ∈ float.form.matches') :
    '.' ∈ text := by
  simp only [form, matches'_add, Language.mem_add] at matched
  rcases matched with (((whole | pointed) | sexagesimal) | infinite) | notNumber
  · obtain ⟨_, ⟨_, ⟨_, -, _, rfl, rfl⟩, _, -, rfl⟩, _, -, rfl⟩ := Language.mem_mul.mp whole
    simp
  · obtain ⟨_, ⟨_, ⟨_, rfl, _, -, rfl⟩, _, -, rfl⟩, _, -, rfl⟩ := Language.mem_mul.mp pointed
    simp
  · obtain ⟨_, ⟨_, -, _, rfl, rfl⟩, _, -, rfl⟩ := Language.mem_mul.mp sexagesimal
    simp
  · obtain ⟨_, -, _, isWord, rfl⟩ := Language.mem_mul.mp infinite
    obtain ⟨infinity, isInfinity, rfl⟩ := Form.mem_anyWord.mp isWord
    have pointed : ∀ infinity ∈ [".inf", ".Inf", ".INF"], '.' ∈ infinity.toList := by decide
    exact List.mem_append_right _ (pointed infinity isInfinity)
  · obtain ⟨characters, isWord, rfl⟩ := Form.mem_anyWord.mp notNumber
    clear notNumber
    revert isWord characters
    decide

/-- An integer has the form of one. -/
theorem signedDecimal_mem_int (value : Int) : signedDecimal value ∈ int.form.matches' := by
  have unsigned (magnitude : Nat) : decimal magnitude ∈
      (char '0' + Form.of "123456789" * Form.digits).matches' := by
    rcases decimal_cases magnitude with ⟨-, written⟩ | ⟨first, rest, written, isFirst, inside⟩
    · exact .inl (written.trans rfl)
    · refine .inr (Language.mem_mul.mpr ⟨[first], Form.mem_of.mpr ⟨first, isFirst, rfl⟩, rest,
        Form.mem_star_of.mpr fun digit mem => ?_, written.symm⟩)
      exact List.mem_append_left ['_'] (inside digit mem)
  simp only [form, matches'_add, Language.mem_add]
  refine .inl (.inl (.inr ?_))
  rcases signedDecimal_cases value with ⟨written, -⟩ | ⟨written, -⟩ <;> rw [written]
  · exact Language.mem_mul.mpr ⟨[], Form.mem_maybe.mpr (.inl rfl), _, unsigned _, rfl⟩
  · exact Language.mem_mul.mpr
      ⟨['-'], Form.mem_maybe.mpr (.inr (Form.mem_of.mpr ⟨'-', by decide, rfl⟩)), _, unsigned _, rfl⟩

/-- An integer has the form of no type that is tried before. -/
theorem ofPlain?_signedDecimal (value : Int) : ofPlain? (signedDecimal value) = some int := by
  have notBool : ¬bool.form.rmatch (signedDecimal value) = true := by
    intro matched
    obtain ⟨characters, isWord, same⟩ := Form.mem_anyWord.mp ((rmatch_iff_matches' _ _).mp matched)
    have letters : ∀ characters ∈ ["yes", "Yes", "YES", "no", "No", "NO", "true", "True", "TRUE",
        "false", "False", "FALSE", "on", "On", "ON", "off", "Off", "OFF"],
        ∃ letter ∈ characters.toList, letter ∉ "-0123456789".toList := by decide
    obtain ⟨letter, mem, isLetter⟩ := letters characters isWord
    exact isLetter (mem_signedDecimal (same ▸ mem))
  have notFloat : ¬float.form.rmatch (signedDecimal value) = true := by
    intro matched
    have mem := mem_signedDecimal (point_mem_of_float ((rmatch_iff_matches' _ _).mp matched))
    exact absurd mem (by decide)
  have isInt := (rmatch_iff_matches' _ _).mpr (signedDecimal_mem_int value)
  simp only [ofPlain?, all, List.find?_cons, notBool, notFloat, isInt]

end Tag

theorem unsignedInt?_decimal (limits : Limits) (value : Nat) :
    unsignedInt? limits (decimal value) =
      if limits.Allows (decimal value).length then some value else none := by
  have read := readDigits_decimal value
  rcases decimal_cases value with ⟨isZero, written⟩ | ⟨first, rest, written, isFirst, -⟩
  · have allows : limits.Allows (decimal value).length := fun most isBound => by
      have wide := limits.generous most isBound
      rw [written, List.length_singleton]
      omega
    rw [if_pos allows, written, isZero]
    rfl
  · have notZero : first ≠ '0' := by rintro rfl; exact absurd isFirst (by decide)
    have noColon : ':' ∉ decimal value := fun mem => absurd (mem_decimal mem) (by decide)
    rw [unsignedInt?.eq_def]
    split
    next same => exact absurd (List.cons.inj (written.symm.trans same)).1 notZero
    next same => exact absurd (List.cons.inj (written.symm.trans same)).1 notZero
    next same => exact absurd (List.cons.inj (written.symm.trans same)).1 notZero
    next => rw [if_neg (by simpa using noColon), decimalOf?, read]

/-- An integer is read back unless it has too many digits. -/
theorem intOf?_signedDecimal (limits : Limits) (value : Int) :
    intOf? limits (signedDecimal value) = if limits.Writes value then some value else none := by
  have noUnderscore : (signedDecimal value).filter (· != '_') = signedDecimal value := by
    refine List.filter_eq_self.mpr fun character mem => bne_iff_ne.mpr ?_
    rintro rfl
    exact absurd (mem_signedDecimal mem) (by decide)
  have noSign {rest : List Char} {first : Char} (same : decimal value.natAbs = first :: rest) :
      first ≠ '-' ∧ first ≠ '+' := by
    have mem : first ∈ decimal value.natAbs := same ▸ List.mem_cons_self
    constructor <;> rintro rfl <;> exact absurd (mem_decimal mem) (by decide)
  have magnitude : unsignedInt? limits (decimal value.natAbs) =
      if limits.Writes value then some value.natAbs else none :=
    unsignedInt?_decimal limits value.natAbs
  rw [intOf?, noUnderscore]
  rcases signedDecimal_cases value with ⟨written, same⟩ | ⟨written, same⟩ <;> rw [written]
  · split
    next written => exact absurd rfl (noSign written).1
    next written => exact absurd rfl (noSign written).2
    next =>
      rw [magnitude, Option.map_if, Int.ofNat_eq_natCast, ← same]
  · change (unsignedInt? limits (decimal value.natAbs)).map
      (fun number : Nat => -(number : Int)) = _
    rw [magnitude, Option.map_if, ← same]

/-- An integer is composed as one. -/
theorem Node.ofPlain_signedDecimal (value : Int) :
    ofPlain (signedDecimal value) = .scalar (some .int) (signedDecimal value) := by
  rw [ofPlain, Tag.ofPlain?_signedDecimal]

end ScriptCheck.Yaml
