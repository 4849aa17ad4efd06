import Mathlib.Data.List.Basic
import Mathlib.Tactic.SplitIfs
import ScriptCheck.Text.Utf8

/-!
# Octets of characters

The octets of a text are those of its characters, one after the other: `encode_eq_flatMap`. An ASCII
character has one octet, which is its code: `encode_ascii`. The first octet of any other one tells
how many follow, and which: `encodeChar_eq_two` and its neighbours.
-/

namespace ScriptCheck.Text.Utf8

/-- An array is listed from an index on, behind what was read before, where the last octet stands
first. -/
theorem toList_loop (octets : ByteArray) (index : Nat) (read : List UInt8) :
    ByteArray.toList.loop octets index read = read.reverse ++ octets.data.toList.drop index := by
  fun_induction ByteArray.toList.loop octets index read with
  | case1 index read inside inductionHypothesis =>
      have within : index < octets.data.toList.length := by simpa using inside
      rw [inductionHypothesis, List.drop_eq_getElem_cons within]
      simp [ByteArray.get!, inside]
  | case2 index read behind =>
      rw [List.drop_eq_nil_of_le (by simpa using behind), List.append_nil]

/-- A list that was made an array is listed again. -/
theorem toList_toByteArray (octets : List UInt8) : octets.toByteArray.toList = octets := by
  rw [ByteArray.toList, toList_loop, List.toList_data_toByteArray]
  rfl

/-- The octets of a text are those of its characters. -/
theorem encode_eq_flatMap (characters : List Char) :
    encode characters = characters.flatMap String.utf8EncodeChar := by
  rw [encode, String.toUTF8_eq_toByteArray]
  exact toList_toByteArray _

/-- An ASCII character has one octet. -/
theorem encodeChar_ascii {character : Char} (ascii : character.toNat < 0x80) :
    String.utf8EncodeChar character = [UInt8.ofNat character.toNat] := by
  have small : character.val.toNat ≤ 0x7F := Nat.le_of_lt_succ ascii
  rw [String.utf8EncodeChar]
  exact if_pos small

/-- An ASCII text has the codes of its characters for octets. -/
theorem encode_ascii {characters : List Char}
    (ascii : ∀ character ∈ characters, character.toNat < 0x80) :
    encode characters = characters.map fun character => UInt8.ofNat character.toNat := by
  rw [encode_eq_flatMap, List.map_eq_flatMap]
  exact List.flatMap_congr fun character mem => encodeChar_ascii (ascii character mem)

section Table

open String (utf8EncodeChar)

/-- The octets of a character, by its code. -/
theorem encodeChar_cases (character : Char) :
    (character.toNat < 0x80 ∧ utf8EncodeChar character = [UInt8.ofNat character.toNat]) ∨
    ((0x80 ≤ character.toNat ∧ character.toNat < 0x800) ∧
      utf8EncodeChar character =
        [UInt8.ofNat (character.toNat / 64 % 32 + 0xC0),
          UInt8.ofNat (character.toNat % 64 + 0x80)]) ∨
    ((0x800 ≤ character.toNat ∧ character.toNat < 0x10000) ∧
      utf8EncodeChar character =
        [UInt8.ofNat (character.toNat / 4096 % 16 + 0xE0),
          UInt8.ofNat (character.toNat / 64 % 64 + 0x80),
          UInt8.ofNat (character.toNat % 64 + 0x80)]) ∨
    (0x10000 ≤ character.toNat ∧
      utf8EncodeChar character =
        [UInt8.ofNat (character.toNat / 262144 % 8 + 0xF0),
          UInt8.ofNat (character.toNat / 4096 % 64 + 0x80),
          UInt8.ofNat (character.toNat / 64 % 64 + 0x80),
          UInt8.ofNat (character.toNat % 64 + 0x80)]) := by
  rw [utf8EncodeChar]
  simp only [Char.toNat_val]
  split_ifs <;> simp <;> omega

/-- A code is that of a character unless it is half of a surrogate pair or too large. -/
theorem toNat_bounds (character : Char) : character.toNat < 0xD800 ∨
    0xDFFF < character.toNat ∧ character.toNat < 0x110000 :=
  character.valid

/-- A character that is made of a code has it. -/
theorem toNat_ofNat {code : Nat} (valid : code.isValidChar) : (Char.ofNat code).toNat = code := by
  rw [Char.ofNat, dif_pos valid]
  rfl

/-- An ASCII octet is a character of its own. -/
theorem encodeChar_of_ascii {octet : UInt8} (ascii : octet.toNat < 0x80) :
    utf8EncodeChar (Char.ofNat octet.toNat) = [octet] := by
  have code : (Char.ofNat octet.toNat).toNat = octet.toNat := toNat_ofNat (.inl (by omega))
  rw [encodeChar_ascii (by rwa [code]), code, UInt8.ofNat_toNat]

/-- Characters do not start with the octets behind their first one, nor with those that would lead
to a shorter sequence or behind the last code. -/
theorem encodeChar_ne {octet : UInt8} (large : 0x80 ≤ octet.toNat)
    (noLead : octet.toNat < 0xC2 ∨ 0xF5 ≤ octet.toNat) (character : Char) (rest : List UInt8) :
    utf8EncodeChar character ≠ octet :: rest := by
  intro encoded
  have valid := toNat_bounds character
  rcases encodeChar_cases character with
    ⟨bounds, shape⟩ | ⟨bounds, shape⟩ | ⟨bounds, shape⟩ | ⟨bounds, shape⟩
  all_goals
    rw [shape] at encoded
    obtain ⟨rfl, -⟩ := List.cons.inj encoded
    rw [UInt8.toNat_ofNat'] at large noLead
    omega

/-- The characters of two octets. -/
theorem encodeChar_eq_two {octet : UInt8} (lower : 0xC2 ≤ octet.toNat)
    (upper : octet.toNat < 0xE0) (character : Char) (rest : List UInt8) :
    utf8EncodeChar character = octet :: rest ↔
      ∃ second : UInt8, rest = [second] ∧ (0x80 ≤ second.toNat ∧ second.toNat ≤ 0xBF) ∧
        character.toNat = (octet.toNat - 0xC0) * 64 + (second.toNat - 0x80) := by
  constructor
  · intro encoded
    rcases encodeChar_cases character with
      ⟨bounds, shape⟩ | ⟨bounds, shape⟩ | ⟨bounds, shape⟩ | ⟨bounds, shape⟩
    all_goals
      rw [shape] at encoded
      obtain ⟨rfl, rfl⟩ := List.cons.inj encoded
      rw [UInt8.toNat_ofNat'] at lower upper
    case inr.inl =>
      refine ⟨_, rfl, ?_⟩
      rw [UInt8.toNat_ofNat', UInt8.toNat_ofNat']
      omega
    all_goals omega
  · rintro ⟨second, rfl, tail, code⟩
    have shape := ((encodeChar_cases character).resolve_left (by omega)).resolve_right (by omega)
    rw [shape.2]
    simp only [List.cons.injEq, ← UInt8.toNat_inj, UInt8.toNat_ofNat', and_true]
    omega

/-- The characters of three octets. The bounds of the second one leave out what two octets stand for
and the halves of surrogate pairs. -/
theorem encodeChar_eq_three {octet : UInt8} (lower : 0xE0 ≤ octet.toNat)
    (upper : octet.toNat < 0xF0) (character : Char) (rest : List UInt8) :
    utf8EncodeChar character = octet :: rest ↔
      ∃ second third : UInt8, rest = [second, third] ∧
        ((if octet.toNat = 0xE0 then 0xA0 else 0x80) ≤ second.toNat ∧
          second.toNat ≤ if octet.toNat = 0xED then 0x9F else 0xBF) ∧
        (0x80 ≤ third.toNat ∧ third.toNat ≤ 0xBF) ∧
        character.toNat = ((octet.toNat - 0xE0) * 64 + (second.toNat - 0x80)) * 64 +
          (third.toNat - 0x80) := by
  have valid := toNat_bounds character
  constructor
  · intro encoded
    rcases encodeChar_cases character with
      ⟨bounds, shape⟩ | ⟨bounds, shape⟩ | ⟨bounds, shape⟩ | ⟨bounds, shape⟩
    all_goals
      rw [shape] at encoded
      obtain ⟨rfl, rfl⟩ := List.cons.inj encoded
      rw [UInt8.toNat_ofNat'] at lower upper
    case inr.inr.inl =>
      refine ⟨_, _, rfl, ?_⟩
      rw [UInt8.toNat_ofNat', UInt8.toNat_ofNat', UInt8.toNat_ofNat']
      split_ifs <;> omega
    all_goals omega
  · rintro ⟨second, third, rfl, inner, tail, code⟩
    have range : 0x800 ≤ character.toNat ∧ character.toNat < 0x10000 := by
      split_ifs at inner <;> omega
    have shape := (((encodeChar_cases character).resolve_left (by omega)).resolve_left
      (by omega)).resolve_right (by omega)
    rw [shape.2]
    simp only [List.cons.injEq, ← UInt8.toNat_inj, UInt8.toNat_ofNat', and_true]
    split_ifs at inner <;> omega

/-- The characters of four octets. The bounds of the second one leave out what three octets stand
for and what lies behind the last code. -/
theorem encodeChar_eq_four {octet : UInt8} (lower : 0xF0 ≤ octet.toNat)
    (upper : octet.toNat < 0xF5) (character : Char) (rest : List UInt8) :
    utf8EncodeChar character = octet :: rest ↔
      ∃ second third fourth : UInt8, rest = [second, third, fourth] ∧
        ((if octet.toNat = 0xF0 then 0x90 else 0x80) ≤ second.toNat ∧
          second.toNat ≤ if octet.toNat = 0xF4 then 0x8F else 0xBF) ∧
        (0x80 ≤ third.toNat ∧ third.toNat ≤ 0xBF) ∧
        (0x80 ≤ fourth.toNat ∧ fourth.toNat ≤ 0xBF) ∧
        character.toNat = (((octet.toNat - 0xF0) * 64 + (second.toNat - 0x80)) * 64 +
          (third.toNat - 0x80)) * 64 + (fourth.toNat - 0x80) := by
  have valid := toNat_bounds character
  constructor
  · intro encoded
    rcases encodeChar_cases character with
      ⟨bounds, shape⟩ | ⟨bounds, shape⟩ | ⟨bounds, shape⟩ | ⟨bounds, shape⟩
    all_goals
      rw [shape] at encoded
      obtain ⟨rfl, rfl⟩ := List.cons.inj encoded
      rw [UInt8.toNat_ofNat'] at lower upper
    case inr.inr.inr =>
      refine ⟨_, _, _, rfl, ?_⟩
      rw [UInt8.toNat_ofNat', UInt8.toNat_ofNat', UInt8.toNat_ofNat', UInt8.toNat_ofNat']
      split_ifs <;> omega
    all_goals omega
  · rintro ⟨second, third, fourth, rfl, inner, _, _, code⟩
    have range : 0x10000 ≤ character.toNat := by
      split_ifs at inner <;> omega
    have shape := ((encodeChar_cases character).resolve_left (by omega)).resolve_left
      (by omega) |>.resolve_left (by omega)
    rw [shape.2]
    simp only [List.cons.injEq, ← UInt8.toNat_inj, UInt8.toNat_ofNat', and_true]
    split_ifs at inner <;> omega

end Table

end ScriptCheck.Text.Utf8
