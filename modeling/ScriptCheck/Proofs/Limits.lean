import Mathlib.Algebra.Group.Nat.Defs
import ScriptCheck.Value.Text

/-!
# What has a text

An integer is written in decimal digits unless it has too many of them. A value is written unless
such an integer is in it, or something in it lies too deep: `Value.textFault?_eq_none_iff`. A
machine without bounds writes everything, and what goes wrong on the others is one of
`Limits.faults`.
-/

namespace ScriptCheck

namespace Limits

variable {limits : Limits} {number : Int}

/-- What may go wrong where a text is made: nothing on a machine without bounds. -/
def faults (limits : Limits) : List Fault :=
  (limits.digits.map Fault.tooManyDigits).toList ++
    (limits.valueDepth.map fun _ => Fault.tooDeep).toList

/-- A machine that makes texts of all values. -/
structure IsUnbounded (limits : Limits) : Prop where
  digits : limits.digits = none
  valueDepth : limits.valueDepth = none

theorem IsUnbounded.faults_eq (unbounded : limits.IsUnbounded) : limits.faults = [] := by
  rw [faults, unbounded.digits, unbounded.valueDepth]
  rfl

/-- Without a bound on digits every integer is written. -/
theorem writes_of_unbounded (unbounded : limits.digits = none) (number : Int) :
    limits.Writes number := by
  intro most isBound
  rw [unbounded] at isBound
  cases isBound

/-- An integer is written exactly if it is smaller than the first one of too many digits. -/
theorem writes_iff : limits.Writes number ↔ ∀ most ∈ limits.digits, number.natAbs < 10 ^ most := by
  refine forall_congr' fun most => forall_congr' fun isBound => ?_
  have wide := limits.generous most isBound
  exact Nat.length_toDigits_le_iff (by decide) (by omega)

/-- An integer of 64 bits is written on every machine. -/
theorem writes_of_small (small : number.natAbs ≤ 18446744073709551616) :
    limits.Writes number := by
  refine writes_iff.2 fun most isBound => ?_
  have wide : 20 ≤ most := Nat.le_trans (by decide) (limits.generous most isBound)
  calc number.natAbs ≤ 18446744073709551616 := small
    _ < 10 ^ 20 := by decide
    _ ≤ 10 ^ most := Nat.pow_le_pow_right (by decide) wide

/-- What is not written has more digits than there may be. -/
theorem digitFault_mem_faults (unwritten : ¬ limits.Writes number) :
    limits.digitFault ∈ limits.faults := by
  cases bound : limits.digits with
  | none => exact absurd (writes_of_unbounded bound number) unwritten
  | some most => simp [digitFault, mostDigits, faults, bound]

theorem decimal_of_writes (writes : limits.Writes number) :
    limits.decimal number = .ok (Text.signedDecimal number) := if_pos writes

theorem decimal_of_not_writes (unwritten : ¬ limits.Writes number) :
    limits.decimal number = .error limits.digitFault := if_neg unwritten

/-- What nothing stands around does not lie too deep. -/
@[simp] theorem isTooDeep_zero : limits.isTooDeep 0 = false := by
  cases bound : limits.valueDepth <;> simp [isTooDeep, bound]

theorem tooDeep_mem_faults {depth : Nat} (tooDeep : limits.isTooDeep depth = true) :
    Fault.tooDeep ∈ limits.faults := by
  cases bound : limits.valueDepth with
  | none => simp [isTooDeep, bound] at tooDeep
  | some most => simp [faults, bound]

end Limits

namespace Value

variable {limits : Limits} {value part : Value} {depth : Nat} {fault : Fault}

/-- What a value holds, itself included, with the number of lists and mappings around it. -/
inductive Holds : Value → (depth : Nat) → (part : Value) → Prop
  | self (value : Value) : Holds value 0 value
  | item {items : List Value} {item part : Value} {depth : Nat} (listed : item ∈ items)
      (holds : Holds item depth part) : Holds (.list items) (depth + 1) part
  | field {fields : List (String × Value)} {key : String} {value part : Value} {depth : Nat}
      (listed : (key, value) ∈ fields) (holds : Holds value depth part) :
      Holds (.mapping fields) (depth + 1) part

/-- A value within `around` lists and mappings that can be written: nothing in it lies too deep, and
no integer in it has too many digits. -/
def IsWritten (limits : Limits) (around : Nat) (value : Value) : Prop :=
  ∀ depth part, value.Holds depth part → limits.isTooDeep (around + depth) = false ∧
    ∀ number, part = .int number → limits.Writes number

section IsWritten

variable {around : Nat}

theorem isWritten_list {items : List Value} :
    (list items).IsWritten limits around ↔
      limits.isTooDeep around = false ∧ ∀ item ∈ items, item.IsWritten limits (around + 1) := by
  constructor
  · refine fun written => ⟨(written 0 _ (.self _)).1, fun item listed depth part holds => ?_⟩
    rw [Nat.add_assoc, Nat.add_comm 1]
    exact written (depth + 1) part (.item listed holds)
  · rintro ⟨shallow, each⟩ depth part holds
    cases holds with
    | self => exact ⟨shallow, fun _ same => nomatch same⟩
    | @item _ _ _ depth listed holds =>
        rw [Nat.add_comm depth, ← Nat.add_assoc]
        exact each _ listed depth part holds

theorem isWritten_mapping {fields : List (String × Value)} :
    (mapping fields).IsWritten limits around ↔
      limits.isTooDeep around = false ∧
        ∀ field ∈ fields, field.2.IsWritten limits (around + 1) := by
  constructor
  · refine fun written => ⟨(written 0 _ (.self _)).1, fun field listed depth part holds => ?_⟩
    rw [Nat.add_assoc, Nat.add_comm 1]
    exact written (depth + 1) part (.field listed holds)
  · rintro ⟨shallow, each⟩ depth part holds
    cases holds with
    | self => exact ⟨shallow, fun _ same => nomatch same⟩
    | @field _ _ _ _ depth listed holds =>
        rw [Nat.add_comm depth, ← Nat.add_assoc]
        exact each _ listed depth part holds

/-- What holds nothing but itself is written where it does not lie too deep, if it is no integer of
too many digits. -/
theorem isWritten_leaf (leaf : ∀ depth part, value.Holds depth part → depth = 0 ∧ part = value) :
    value.IsWritten limits around ↔
      limits.isTooDeep around = false ∧ ∀ number, value = .int number → limits.Writes number := by
  constructor
  · exact fun written => written 0 value (.self value)
  · rintro given depth part holds
    obtain ⟨rfl, rfl⟩ := leaf depth part holds
    exact given

end IsWritten

mutual

/-- A value has a text exactly if nothing in it lies too deep and no integer in it has too many
digits. -/
theorem textFault?_eq_none_iff (around : Nat) : (value : Value) →
    (value.textFault? limits around = none ↔ value.IsWritten limits around)
  | .list items => by
      rw [textFault?, isWritten_list, ← itemsFault?_eq_none_iff (around + 1) items]
      by_cases tooDeep : limits.isTooDeep around = true <;> simp [tooDeep]
  | .mapping fields => by
      rw [textFault?, isWritten_mapping, ← fieldsFault?_eq_none_iff (around + 1) fields]
      by_cases tooDeep : limits.isTooDeep around = true <;> simp [tooDeep]
  | .int number => by
      rw [textFault?, isWritten_leaf fun _ _ holds => by cases holds; exact ⟨rfl, rfl⟩]
      by_cases tooDeep : limits.isTooDeep around = true <;> simp [tooDeep]
  | .null | .bool _ | .float _ | .text _ | .bytes _ => by
      rw [textFault?.eq_def, isWritten_leaf fun _ _ holds => by cases holds; exact ⟨rfl, rfl⟩]
      by_cases tooDeep : limits.isTooDeep around = true <;> simp [tooDeep]

/-- The items of a list have texts exactly if each of them has. -/
theorem itemsFault?_eq_none_iff (around : Nat) : (items : List Value) →
    (itemsFault? limits around items = none ↔ ∀ item ∈ items, item.IsWritten limits around)
  | [] => by simp [itemsFault?]
  | item :: items => by
      rw [itemsFault?, Option.or_eq_none_iff, textFault?_eq_none_iff around item,
        itemsFault?_eq_none_iff around items, List.forall_mem_cons]

/-- The fields of a mapping have texts exactly if each of their values has. -/
theorem fieldsFault?_eq_none_iff (around : Nat) : (fields : List (String × Value)) →
    (fieldsFault? limits around fields = none ↔
      ∀ field ∈ fields, field.2.IsWritten limits around)
  | [] => by simp [fieldsFault?]
  | (key, value) :: fields => by
      rw [fieldsFault?, Option.or_eq_none_iff, textFault?_eq_none_iff around value,
        fieldsFault?_eq_none_iff around fields, List.forall_mem_cons]

end

mutual

/-- Where a value has no text, something went wrong that the limits are there for. -/
theorem textFault?_mem_faults (around : Nat) (value : Value)
    (found : value.textFault? limits around = some fault) : fault ∈ limits.faults := by
  rw [textFault?.eq_def] at found
  split at found
  next tooDeep => exact Option.some.inj found ▸ Limits.tooDeep_mem_faults tooDeep
  next =>
    match value with
    | .list items => exact itemsFault?_mem_faults (around + 1) items found
    | .mapping fields => exact fieldsFault?_mem_faults (around + 1) fields found
    | .int number =>
        dsimp only at found
        split at found
        next => cases found
        next unwritten => exact Option.some.inj found ▸ Limits.digitFault_mem_faults unwritten
    | .null | .bool _ | .float _ | .text _ | .bytes _ => cases found

theorem itemsFault?_mem_faults (around : Nat) : (items : List Value) →
    itemsFault? limits around items = some fault → fault ∈ limits.faults
  | [] => fun found => nomatch found
  | item :: items => fun found => by
      rw [itemsFault?, Option.or_eq_some_iff] at found
      obtain first | ⟨-, later⟩ := found
      · exact textFault?_mem_faults around item first
      · exact itemsFault?_mem_faults around items later

theorem fieldsFault?_mem_faults (around : Nat) : (fields : List (String × Value)) →
    fieldsFault? limits around fields = some fault → fault ∈ limits.faults
  | [] => fun found => nomatch found
  | (key, value) :: fields => fun found => by
      rw [fieldsFault?, Option.or_eq_some_iff] at found
      obtain first | ⟨-, later⟩ := found
      · exact textFault?_mem_faults around value first
      · exact fieldsFault?_mem_faults around fields later

end

/-- A machine without bounds writes every value. -/
theorem isWritten_of_unbounded (unbounded : limits.IsUnbounded) (value : Value) :
    value.IsWritten limits 0 := by
  refine (textFault?_eq_none_iff 0 value).1 ?_
  refine Option.eq_none_iff_forall_ne_some.2 fun fault found => ?_
  have mem := textFault?_mem_faults 0 value found
  rw [unbounded.faults_eq] at mem
  exact List.not_mem_nil mem

/-- A text is written on every machine. -/
theorem isWritten_text (characters : String) : (text characters).IsWritten limits 0 :=
  (textFault?_eq_none_iff 0 _).1 (by simp [textFault?])

/-- A quoted text is a text in quotation marks. -/
theorem quotedBy_text (printable : Char → Bool) (characters : String) :
    (text characters).quotedBy limits printable =
      .ok (Text.Quoted.write printable characters.toList) := by
  simp [quotedBy, textFault?, spelledBy]

/-- A text is shown as it is. -/
@[simp] theorem shownText_text (characters : String) :
    (text characters).shownText limits = .ok characters := by
  simp [shownText, shown, Except.map]

/-- An integer is shown by its digits. -/
theorem shownText_int (number : Int) :
    (int number).shownText limits = (limits.decimal number).map String.ofList := by
  by_cases writes : limits.Writes number <;>
    simp [shownText, shown, quoted, quotedBy, textFault?, spelledBy, Limits.decimal, writes]

section Texts

/-- A value is quoted exactly if it can be written. -/
theorem quotedText_isOk_iff :
    (∃ quoted, value.quotedText limits = .ok quoted) ↔ value.IsWritten limits 0 := by
  rw [← textFault?_eq_none_iff, quotedText, quoted, quotedBy]
  cases value.textFault? limits 0 <;> simp [Except.map]

theorem mem_faults_of_quotedText (fails : value.quotedText limits = .error fault) :
    fault ∈ limits.faults := by
  rw [quotedText, quoted, quotedBy] at fails
  cases found : value.textFault? limits 0 with
  | none => simp [found, Except.map] at fails
  | some other =>
      simp only [found, Except.map, Except.error.injEq] at fails
      exact fails ▸ textFault?_mem_faults 0 value found

/-- A value is shown exactly if it can be written. -/
theorem shownText_isOk_iff :
    (∃ shown, value.shownText limits = .ok shown) ↔ value.IsWritten limits 0 := by
  cases value with
  | text characters =>
      exact iff_of_true ⟨_, shownText_text characters⟩ (isWritten_text characters)
  | _ => exact quotedText_isOk_iff

theorem mem_faults_of_shownText (fails : value.shownText limits = .error fault) :
    fault ∈ limits.faults := by
  cases value with
  | text characters => cases (shownText_text characters).symm.trans fails
  | _ => exact mem_faults_of_quotedText fails

end Texts

end Value

end ScriptCheck
