import Mathlib.Data.List.Infix
import Mathlib.Tactic.SplitIfs
import ScriptCheck.Proofs.Text.Octets

/-!
# Octets as text

`Decoded` says which text octets are, from the octets of characters alone: as long as a character
can be read it is read, and otherwise the longest part in front that some character begins with
becomes one mark. The decoder is a machine that keeps a sequence open. `Opened` ties that sequence
to the octets that were read, `decoded_decodeFrom` follows the machine octet by octet, and
`decoded_iff` says that it finds the text that the octets are. What a text keeps of its octets is
then a matter of `Decoded`: a cut in front of a character cuts the text as well
(`decode_append`), so a character is read wherever its octets stand.
-/

namespace ScriptCheck.Text.Utf8

open String (utf8EncodeChar)

section Relation

/-- Octets with which those of a character begin. -/
def Begins (octets : List UInt8) : Prop := ∃ character, octets <+: utf8EncodeChar character

/-- An ill-formed part in front of other octets: no character can be read, and it is the longest
part with which one begins, or an octet with which none does. -/
structure IsIllFormed (part rest : List UInt8) : Prop where
  ne_nil : part ≠ []
  unreadable : ∀ character, ¬ utf8EncodeChar character <+: part ++ rest
  begins : Begins part ∨ part.length = 1
  longest : ∀ longer, longer <+: part ++ rest → part.length < longer.length → ¬ Begins longer

/-- The text that octets are. -/
inductive Decoded : List UInt8 → List Char → Prop where
  | nil : Decoded [] []
  | character (character : Char) {rest : List UInt8} {text : List Char}
      (behind : Decoded rest text) : Decoded (utf8EncodeChar character ++ rest) (character :: text)
  | illFormed {part rest : List UInt8} {text : List Char} (isIllFormed : IsIllFormed part rest)
      (behind : Decoded rest text) : Decoded (part ++ rest) (replacement :: text)

/-- What two lists begin with is part of the first one or goes on into the second one. -/
theorem prefix_append_cases {octets first second : List UInt8}
    (starts : octets <+: first ++ second) :
    octets <+: first ∨ ∃ more, octets = first ++ more ∧ more ≠ [] ∧ more <+: second := by
  obtain ⟨behind, joined⟩ := starts
  rcases List.append_eq_append_iff.mp joined with ⟨middle, rfl, -⟩ | ⟨more, rfl, rfl⟩
  · exact .inl (List.prefix_append octets middle)
  · by_cases empty : more = []
    · exact .inl (by rw [empty, List.append_nil])
    · exact .inr ⟨more, rfl, empty, List.prefix_append more behind⟩

/-- A part is ill-formed in front of others if it is so within what stands in front, and no
character begins with more than that. -/
theorem isIllFormed_of_front {part rest front behind : List UInt8} (nonempty : part ≠ [])
    (begins : Begins part ∨ part.length = 1)
    (unreadable : ∀ character, ¬ utf8EncodeChar character <+: front)
    (longest : ∀ longer, longer <+: front → part.length < longer.length → ¬ Begins longer)
    (ends : ∀ more, more <+: behind → more ≠ [] → ¬ Begins (front ++ more))
    (joined : part ++ rest = front ++ behind) : IsIllFormed part rest := by
  refine ⟨nonempty, fun character starts => ?_, begins, fun longer starts long isBegun => ?_⟩
  · rw [joined] at starts
    rcases prefix_append_cases starts with within | ⟨more, encoded, nonempty, within⟩
    · exact unreadable character within
    · exact ends more within nonempty ⟨character, encoded ▸ List.prefix_rfl⟩
  · rw [joined] at starts
    rcases prefix_append_cases starts with within | ⟨more, rfl, nonempty, within⟩
    · exact longest longer within long isBegun
    · exact ends more within nonempty isBegun

end Relation

namespace Unfinished

/-- Whether an octet goes on with a sequence. -/
def Accepts (sequence : Unfinished) (octet : UInt8) : Prop :=
  sequence.lower ≤ octet.toNat ∧ octet.toNat ≤ sequence.upper

/-- A sequence behind one more octet. -/
def behind (sequence : Unfinished) (octet : UInt8) : Unfinished where
  value := sequence.value * 64 + (octet.toNat - 0x80)
  missing := sequence.missing - 1

theorem behind_missing (sequence : Unfinished) (octet : UInt8) :
    (sequence.behind octet).missing = sequence.missing - 1 := rfl

/-- The octets that complete a sequence, and the code of the character that they complete. -/
def Completes (sequence : Unfinished) : List UInt8 → Nat → Prop
  | [], _ => False
  | octet :: rest, code =>
      sequence.Accepts octet ∧
        if sequence.missing ≤ 1 then rest = [] ∧ code = (sequence.behind octet).value
        else (sequence.behind octet).Completes rest code

/-- One octet completes a sequence that misses one. -/
theorem completes_last {sequence : Unfinished} (last : sequence.missing ≤ 1) (rest : List UInt8)
    (code : Nat) : sequence.Completes rest code ↔
      ∃ octet, rest = [octet] ∧ sequence.Accepts octet ∧ code = (sequence.behind octet).value := by
  cases rest with
  | nil => simp [Completes]
  | cons octet rest =>
      simp only [Completes, if_pos last, List.cons.injEq]
      constructor
      · rintro ⟨accepts, rfl, code_eq⟩
        exact ⟨octet, ⟨rfl, rfl⟩, accepts, code_eq⟩
      · rintro ⟨_, ⟨rfl, rfl⟩, accepts, code_eq⟩
        exact ⟨accepts, rfl, code_eq⟩

/-- Of one that misses more, an octet leaves a sequence to complete. -/
theorem completes_more {sequence : Unfinished} (more : 1 < sequence.missing) (rest : List UInt8)
    (code : Nat) : sequence.Completes rest code ↔
      ∃ octet others, rest = octet :: others ∧ sequence.Accepts octet ∧
        (sequence.behind octet).Completes others code := by
  cases rest with
  | nil => simp [Completes]
  | cons octet rest =>
      simp only [Completes, if_neg (Nat.not_le.mpr more), List.cons.injEq]
      constructor
      · rintro ⟨accepts, completes⟩
        exact ⟨octet, rest, ⟨rfl, rfl⟩, accepts, completes⟩
      · rintro ⟨_, _, ⟨rfl, rfl⟩, accepts, completes⟩
        exact ⟨accepts, completes⟩

/-- Between the widest bounds lies the least octet behind the first one of a character. -/
theorem accepts_least (value missing : Nat) : Accepts { value, missing } 0x80 := by
  have code : (0x80 : UInt8).toNat = 0x80 := by decide
  rw [Accepts, code]
  exact ⟨Nat.le_refl 0x80, Nat.le_of_ble_eq_true rfl⟩

/-- Two octets complete a sequence that misses two. -/
theorem completes_two {sequence : Unfinished} (two : sequence.missing = 2) (rest : List UInt8)
    (code : Nat) : sequence.Completes rest code ↔
      ∃ first last, rest = [first, last] ∧ sequence.Accepts first ∧
        (sequence.behind first).Accepts last ∧
        code = ((sequence.behind first).behind last).value := by
  have more : 1 < sequence.missing := by omega
  have last (octet : UInt8) : (sequence.behind octet).missing ≤ 1 := by
    rw [behind_missing, two]
  simp only [completes_more more, completes_last (last _)]
  constructor
  · rintro ⟨first, _, rfl, accepts, last, rfl, acceptsLast, code_eq⟩
    exact ⟨first, last, rfl, accepts, acceptsLast, code_eq⟩
  · rintro ⟨first, last, rfl, accepts, acceptsLast, code_eq⟩
    exact ⟨first, _, rfl, accepts, last, rfl, acceptsLast, code_eq⟩

/-- Three octets complete a sequence that misses three. -/
theorem completes_three {sequence : Unfinished} (three : sequence.missing = 3) (rest : List UInt8)
    (code : Nat) : sequence.Completes rest code ↔
      ∃ first second last, rest = [first, second, last] ∧ sequence.Accepts first ∧
        (sequence.behind first).Accepts second ∧
        ((sequence.behind first).behind second).Accepts last ∧
        code = (((sequence.behind first).behind second).behind last).value := by
  have more : 1 < sequence.missing := by omega
  have two (octet : UInt8) : (sequence.behind octet).missing = 2 := by
    rw [behind_missing, three]
  simp only [completes_more more, completes_two (two _)]
  constructor
  · rintro ⟨first, _, rfl, accepts, second, last, rfl, others⟩
    exact ⟨first, second, last, rfl, accepts, others⟩
  · rintro ⟨first, second, last, rfl, accepts, others⟩
    exact ⟨first, _, rfl, accepts, second, last, rfl, others⟩

/-- An octet that goes on with a sequence goes on to its end. -/
theorem exists_completes (sequence : Unfinished) {octet : UInt8}
    (accepts : sequence.Accepts octet) :
    ∃ rest code, sequence.Completes (octet :: rest) code := by
  induction missing : sequence.missing generalizing sequence octet with
  | zero =>
      refine ⟨[], (sequence.behind octet).value, (completes_last ?_ _ _).mpr ?_⟩
      · omega
      · exact ⟨octet, rfl, accepts, rfl⟩
  | succ others inductionHypothesis =>
      by_cases last : sequence.missing ≤ 1
      · exact ⟨[], (sequence.behind octet).value,
          (completes_last last _ _).mpr ⟨octet, rfl, accepts, rfl⟩⟩
      · have fewer : (sequence.behind octet).missing = others := by
          rw [behind_missing, missing, Nat.add_sub_cancel]
        obtain ⟨rest, code, completes⟩ :=
          inductionHypothesis _ (accepts_least _ _) fewer
        exact ⟨_, code, (completes_more (Nat.not_le.mp last) _ _).mpr
          ⟨octet, _, rfl, accepts, completes⟩⟩

end Unfinished

section Open

/-- A sequence is open behind the octets that were read: whatever completes it makes them those of a
character, and nothing else does. -/
structure Opened (sequence : Unfinished) (read : List UInt8) : Prop where
  ne_nil : read ≠ []
  completes_iff : ∀ character rest,
    utf8EncodeChar character = read ++ rest ↔ sequence.Completes rest character.toNat
  valid : ∀ rest code, sequence.Completes rest code → code.isValidChar
  unread : ∀ character, ¬ utf8EncodeChar character <+: read
  goesOn : ∃ octet, sequence.Accepts octet

variable {sequence : Unfinished} {read : List UInt8} {octet : UInt8}

/-- A character begins with the octets that were read and one that goes on with them. -/
theorem Opened.begins_append (opened : Opened sequence read) (accepts : sequence.Accepts octet) :
    Begins (read ++ [octet]) := by
  obtain ⟨rest, code, completes⟩ := sequence.exists_completes accepts
  have valid := opened.valid _ _ completes
  have encoded := (opened.completes_iff (Char.ofNat code) _).mpr (by rwa [toNat_ofNat valid])
  exact ⟨Char.ofNat code, rest, by rw [encoded, List.append_assoc, List.singleton_append]⟩

/-- So one does with those that were read. -/
theorem Opened.begins (opened : Opened sequence read) : Begins read := by
  obtain ⟨octet, accepts⟩ := opened.goesOn
  obtain ⟨character, starts⟩ := opened.begins_append accepts
  exact ⟨character, (List.prefix_append read [octet]).trans starts⟩

/-- No character begins with them and an octet that does not go on with them. -/
theorem Opened.encodeChar_ne (opened : Opened sequence read) (rejects : ¬ sequence.Accepts octet)
    (character : Char) (rest : List UInt8) :
    utf8EncodeChar character ≠ read ++ octet :: rest :=
  fun encoded => rejects ((opened.completes_iff character _).mp encoded).1

/-- A first octet opens a sequence if it leaves the same to follow as characters have. -/
theorem opened_first
    (completes_iff : ∀ character rest,
      utf8EncodeChar character = octet :: rest ↔ sequence.Completes rest character.toNat)
    (valid : ∀ rest code, sequence.Completes rest code → code.isValidChar)
    (goesOn : ∃ octet, sequence.Accepts octet) : Opened sequence [octet] where
  ne_nil := List.cons_ne_nil octet []
  completes_iff := completes_iff
  valid := valid
  unread := by
    intro character starts
    rcases List.prefix_cons_iff.mp starts with empty | ⟨rest, encoded, empty⟩
    · exact String.utf8EncodeChar_ne_nil empty
    · obtain rfl := List.prefix_nil.mp empty
      exact (completes_iff character []).mp encoded
  goesOn := goesOn

/-- The last octet makes a character of those that were read. -/
theorem Opened.complete (opened : Opened sequence read) (accepts : sequence.Accepts octet)
    (last : sequence.missing ≤ 1) :
    utf8EncodeChar (Char.ofNat (sequence.behind octet).value) = read ++ [octet] := by
  have completes : sequence.Completes [octet] (sequence.behind octet).value :=
    (Unfinished.completes_last last _ _).mpr ⟨octet, rfl, accepts, rfl⟩
  have valid := opened.valid _ _ completes
  exact (opened.completes_iff _ _).mpr (by rwa [toNat_ofNat valid])

/-- Any other one leaves a sequence open. -/
theorem Opened.next (opened : Opened sequence read) (accepts : sequence.Accepts octet)
    (more : 1 < sequence.missing) : Opened (sequence.behind octet) (read ++ [octet]) := by
  have completes_next (rest : List UInt8) (code : Nat) :
      sequence.Completes (octet :: rest) code ↔ (sequence.behind octet).Completes rest code := by
    rw [Unfinished.completes_more more]
    constructor
    · rintro ⟨_, _, same, -, completes⟩
      obtain ⟨rfl, rfl⟩ := List.cons.inj same
      exact completes
    · exact fun completes => ⟨octet, rest, rfl, accepts, completes⟩
  have unread (character : Char) : ¬ utf8EncodeChar character <+: read ++ [octet] := by
    intro starts
    rcases List.prefix_concat_iff.mp starts with encoded | starts
    · have completes := (opened.completes_iff character [octet]).mp encoded
      exact (completes_next [] _).mp completes
    · exact opened.unread character starts
  exact {
    ne_nil := by simp
    completes_iff := fun character rest => by
      rw [List.append_assoc, List.singleton_append, opened.completes_iff, completes_next]
    valid := fun rest code completes => opened.valid _ _ ((completes_next rest code).mpr completes)
    unread
    goesOn := ⟨0x80, Unfinished.accepts_least _ _⟩ }

/-- An octet that leads a sequence of two. -/
theorem opened_two (lower : 0xC2 ≤ octet.toNat) (upper : octet.toNat < 0xE0) :
    Opened { value := octet.toNat - 0xC0, missing := 1 } [octet] := by
  refine opened_first (fun character rest => ?_) (fun rest code completes => ?_)
    ⟨0x80, Unfinished.accepts_least _ _⟩
  · rw [encodeChar_eq_two lower upper, Unfinished.completes_last (Nat.le_refl 1)]
    exact Iff.rfl
  · obtain ⟨second, -, accepts, code_eq⟩ :=
      (Unfinished.completes_last (Nat.le_refl 1) rest code).mp completes
    have bounds : 0x80 ≤ second.toNat ∧ second.toNat ≤ 0xBF := accepts
    have value : code = (octet.toNat - 0xC0) * 64 + (second.toNat - 0x80) := code_eq
    exact .inl (by omega)

/-- An octet that leads a sequence of three. -/
theorem opened_three (lower : 0xE0 ≤ octet.toNat) (upper : octet.toNat < 0xF0) :
    Opened {
      value := octet.toNat - 0xE0, missing := 2
      lower := if octet.toNat = 0xE0 then 0xA0 else 0x80
      upper := if octet.toNat = 0xED then 0x9F else 0xBF } [octet] := by
  refine opened_first (fun character rest => ?_) (fun rest code completes => ?_) ?_
  · rw [encodeChar_eq_three lower upper, Unfinished.completes_two rfl]
    exact Iff.rfl
  · obtain ⟨second, third, -, accepts, acceptsLast, code_eq⟩ :=
      (Unfinished.completes_two rfl rest code).mp completes
    have inner : (if octet.toNat = 0xE0 then 0xA0 else 0x80) ≤ second.toNat ∧
        second.toNat ≤ if octet.toNat = 0xED then 0x9F else 0xBF := accepts
    have bounds : 0x80 ≤ third.toNat ∧ third.toNat ≤ 0xBF := acceptsLast
    have value : code = ((octet.toNat - 0xE0) * 64 + (second.toNat - 0x80)) * 64 +
        (third.toNat - 0x80) := code_eq
    unfold Nat.isValidChar
    split_ifs at inner <;> omega
  · by_cases first : octet.toNat = 0xE0
    · exact ⟨0xA0, by simp [Unfinished.Accepts, first]⟩
    · have least : 0x80 ≤ if octet.toNat = 0xED then 0x9F else 0xBF := by split_ifs <;> omega
      exact ⟨0x80, by simpa [Unfinished.Accepts, first] using least⟩

/-- An octet that leads a sequence of four. -/
theorem opened_four (lower : 0xF0 ≤ octet.toNat) (upper : octet.toNat < 0xF5) :
    Opened {
      value := octet.toNat - 0xF0, missing := 3
      lower := if octet.toNat = 0xF0 then 0x90 else 0x80
      upper := if octet.toNat = 0xF4 then 0x8F else 0xBF } [octet] := by
  refine opened_first (fun character rest => ?_) (fun rest code completes => ?_) ?_
  · rw [encodeChar_eq_four lower upper, Unfinished.completes_three rfl]
    exact Iff.rfl
  · obtain ⟨second, third, fourth, -, accepts, acceptsThird, acceptsLast, code_eq⟩ :=
      (Unfinished.completes_three rfl rest code).mp completes
    have inner : (if octet.toNat = 0xF0 then 0x90 else 0x80) ≤ second.toNat ∧
        second.toNat ≤ if octet.toNat = 0xF4 then 0x8F else 0xBF := accepts
    have bounds : 0x80 ≤ third.toNat ∧ third.toNat ≤ 0xBF := acceptsThird
    have boundsLast : 0x80 ≤ fourth.toNat ∧ fourth.toNat ≤ 0xBF := acceptsLast
    have value : code = (((octet.toNat - 0xF0) * 64 + (second.toNat - 0x80)) * 64 +
        (third.toNat - 0x80)) * 64 + (fourth.toNat - 0x80) := code_eq
    unfold Nat.isValidChar
    split_ifs at inner <;> omega
  · by_cases first : octet.toNat = 0xF0
    · exact ⟨0x90, by simp [Unfinished.Accepts, first]⟩
    · have least : 0x80 ≤ if octet.toNat = 0xF4 then 0x8F else 0xBF := by split_ifs <;> omega
      exact ⟨0x80, by simpa [Unfinished.Accepts, first] using least⟩

/-- What an octet does where no sequence is open: it is a character, it stands for nothing, or it
opens a sequence. -/
theorem start_cases (octet : UInt8) :
    (∃ character, utf8EncodeChar character = [octet] ∧ start octet = ([character], none)) ∨
    ((∀ character rest, utf8EncodeChar character ≠ octet :: rest) ∧
      start octet = ([replacement], none)) ∨
    ∃ sequence, Opened sequence [octet] ∧ start octet = ([], some sequence) := by
  by_cases ascii : octet.toNat < 0x80
  · exact .inl ⟨_, encodeChar_of_ascii ascii, by simp only [start, if_pos ascii]⟩
  refine .inr ?_
  by_cases low : octet.toNat < 0xC2
  · exact .inl ⟨encodeChar_ne (Nat.not_lt.mp ascii) (.inl low),
      by simp only [start, if_neg ascii, if_pos low]⟩
  by_cases two : octet.toNat < 0xE0
  · exact .inr ⟨_, opened_two (Nat.not_lt.mp low) two,
      by simp only [start, if_neg ascii, if_neg low, if_pos two]⟩
  by_cases three : octet.toNat < 0xF0
  · refine .inr ⟨_, opened_three (Nat.not_lt.mp two) three, ?_⟩
    simp only [start, if_neg ascii, if_neg low, if_neg two]
    split_ifs <;> simp_all
  by_cases four : octet.toNat < 0xF5
  · refine .inr ⟨_, opened_four (Nat.not_lt.mp three) four, ?_⟩
    have notThree : octet.toNat ≠ 0xE0 ∧ octet.toNat ≠ 0xED := by omega
    simp only [start, if_neg ascii, if_neg low, if_neg two, if_neg notThree.1,
      if_neg notThree.2, if_neg three]
    split_ifs <;> simp_all; omega
  · refine .inl ⟨encodeChar_ne (Nat.not_lt.mp ascii) (.inr (Nat.not_lt.mp four)), ?_⟩
    simp only [start]
    repeat rw [if_neg (by omega)]

/-- What an octet does to an open sequence: it completes the character, it leaves a sequence open,
or it does not go on with it. -/
theorem resume_cases (opened : Opened sequence read) (octet : UInt8) :
    (∃ character, utf8EncodeChar character = read ++ [octet] ∧
      resume sequence octet = ([character], none)) ∨
    (∃ next, Opened next (read ++ [octet]) ∧ resume sequence octet = ([], some next)) ∨
    ¬ sequence.Accepts octet ∧
      resume sequence octet = (replacement :: (start octet).1, (start octet).2) := by
  unfold resume
  by_cases accepts : sequence.Accepts octet
  · by_cases last : sequence.missing ≤ 1
    · exact .inl ⟨_, opened.complete accepts last, (if_pos accepts).trans (if_pos last)⟩
    · exact .inr (.inl ⟨_, opened.next accepts (Nat.not_le.mp last),
        (if_pos accepts).trans (if_neg last)⟩)
  · exact .inr (.inr ⟨accepts, if_neg accepts⟩)

/-- What was read of a sequence is an ill-formed part if nothing goes on with it. -/
theorem Opened.isIllFormed (opened : Opened sequence read) {rest : List UInt8}
    (rejects : ∀ octet, rest.head? = some octet → ¬ sequence.Accepts octet) :
    IsIllFormed read rest := by
  refine isIllFormed_of_front opened.ne_nil (.inl opened.begins) opened.unread
    (fun longer within long _ => Nat.not_le.mpr long within.length_le) ?_ rfl
  -- A character that begins with more than was read would go on with it.
  rintro more ⟨others, rfl⟩ nonempty ⟨character, behind, encoded⟩
  obtain ⟨octet, rest, rfl⟩ := List.exists_cons_of_ne_nil nonempty
  rw [List.append_assoc] at encoded
  exact opened.encodeChar_ne (rejects octet rfl) character _ encoded.symm

/-- An octet with which no character begins is an ill-formed part. -/
theorem isIllFormed_singleton {octet : UInt8}
    (noLead : ∀ character rest, utf8EncodeChar character ≠ octet :: rest) (rest : List UInt8) :
    IsIllFormed [octet] rest := by
  have notBegins {others : List UInt8} : ¬ Begins (octet :: others) :=
    fun ⟨character, behind, encoded⟩ => noLead character _ encoded.symm
  refine ⟨List.cons_ne_nil octet [], fun character starts => ?_, .inr rfl,
    fun octets starts long begins => ?_⟩
  · rcases List.prefix_cons_iff.mp starts with empty | ⟨others, encoded, -⟩
    · exact String.utf8EncodeChar_ne_nil empty
    · exact noLead character others encoded
  · rcases List.prefix_cons_iff.mp starts with rfl | ⟨others, rfl, -⟩
    · exact absurd long (Nat.not_lt_zero _)
    · exact notBegins begins

end Open

/-- The decoder finds a text that the octets are, also behind those that were read of a sequence. -/
theorem decoded_decodeFrom (octets : List UInt8) :
    Decoded octets (decodeFrom none octets) ∧
      ∀ {sequence : Unfinished} {read : List UInt8}, Opened sequence read →
        Decoded (read ++ octets) (decodeFrom (some sequence) octets) := by
  induction octets with
  | nil => exact ⟨.nil, fun opened => .illFormed (opened.isIllFormed nofun) .nil⟩
  | cons octet octets inductionHypothesis =>
      obtain ⟨closed, behind⟩ := inductionHypothesis
      -- An octet that ends a sequence acts as if none had been open.
      have started : Decoded (octet :: octets) (decodeFrom none (octet :: octets)) := by
        rcases start_cases octet with
          ⟨character, encoded, starts⟩ | ⟨noLead, starts⟩ | ⟨sequence, opened, starts⟩
        · simp only [decodeFrom, starts]
          rw [← List.singleton_append, ← encoded]
          exact .character character closed
        · simp only [decodeFrom, starts]
          exact .illFormed (isIllFormed_singleton noLead octets) closed
        · simp only [decodeFrom, starts]
          exact behind opened
      refine ⟨started, fun {sequence read} opened => ?_⟩
      rw [List.append_cons]
      rcases resume_cases opened octet with
        ⟨character, encoded, resumes⟩ | ⟨next, nextOpened, resumes⟩ | ⟨rejects, resumes⟩
      · simp only [decodeFrom, resumes]
        rw [← encoded]
        exact .character character closed
      · simp only [decodeFrom, resumes]
        exact behind nextOpened
      · simp only [decodeFrom, resumes]
        rw [← List.append_cons]
        refine .illFormed (opened.isIllFormed ?_) started
        rintro _ ⟨⟩
        exact rejects

section Uniqueness

/-- Octets are those of one character at most. -/
theorem eq_of_encodeChar_starts {character other : Char}
    (starts : utf8EncodeChar character <+: utf8EncodeChar other) : character = other := by
  obtain ⟨behind, encoded⟩ := starts
  have first := @ByteArray.utf8DecodeChar?_utf8EncodeChar_append behind.toByteArray character
  have second := @ByteArray.utf8DecodeChar?_utf8EncodeChar_append ByteArray.empty other
  rw [← List.toByteArray_append, encoded] at first
  rw [ByteArray.append_empty] at second
  exact Option.some.inj (first.symm.trans second)

/-- So the first character of octets is known, and what is left of them. -/
theorem encodeChar_append_inj {character other : Char} {rest others : List UInt8}
    (same : utf8EncodeChar character ++ rest = utf8EncodeChar other ++ others) :
    character = other ∧ rest = others := by
  have isOther : character = other := by
    rcases List.append_eq_append_iff.mp same with ⟨more, encoded, -⟩ | ⟨more, encoded, -⟩
    · exact eq_of_encodeChar_starts ⟨more, encoded.symm⟩
    · exact (eq_of_encodeChar_starts ⟨more, encoded.symm⟩).symm
  subst isOther
  exact ⟨rfl, List.append_cancel_left same⟩

/-- An ill-formed part is no longer than another one in front of the same octets. -/
theorem IsIllFormed.length_le {part rest other others : List UInt8}
    (isIllFormed : IsIllFormed part rest) (otherwise : IsIllFormed other others)
    (same : other ++ others = part ++ rest) : other.length ≤ part.length := by
  by_contra longer
  rw [Nat.not_le] at longer
  have starts : other <+: part ++ rest := ⟨others, same⟩
  rcases otherwise.begins with begins | single
  · exact isIllFormed.longest other starts longer begins
  · have nonempty := List.length_pos_iff.mpr isIllFormed.ne_nil
    omega

/-- Octets are one text only. -/
theorem Decoded.unique {octets : List UInt8} {text other : List Char}
    (decoded : Decoded octets text) (otherwise : Decoded octets other) : text = other := by
  induction decoded generalizing other with
  | nil =>
      generalize none : ([] : List UInt8) = octets at otherwise
      cases otherwise with
      | nil => rfl
      | character character behind =>
          exact absurd (List.append_eq_nil_iff.mp none.symm).1 String.utf8EncodeChar_ne_nil
      | illFormed isIllFormed behind =>
          exact absurd (List.append_eq_nil_iff.mp none.symm).1 isIllFormed.ne_nil
  | @character character rest text behind inductionHypothesis =>
      generalize same : utf8EncodeChar character ++ rest = octets at otherwise
      cases otherwise with
      | nil => exact absurd (List.append_eq_nil_iff.mp same).1 String.utf8EncodeChar_ne_nil
      | @character read others text otherBehind =>
          obtain ⟨rfl, rfl⟩ := encodeChar_append_inj same
          rw [inductionHypothesis otherBehind]
      | illFormed isIllFormed otherBehind =>
          exact absurd ⟨rest, same⟩ (isIllFormed.unreadable character)
  | @illFormed part rest text isIllFormed behind inductionHypothesis =>
      generalize same : part ++ rest = octets at otherwise
      cases otherwise with
      | nil => exact absurd (List.append_eq_nil_iff.mp same).1 isIllFormed.ne_nil
      | @character read others text otherBehind =>
          exact absurd ⟨others, same.symm⟩ (isIllFormed.unreadable read)
      | @illFormed otherPart others text otherIllFormed otherBehind =>
          have length_eq : part.length = otherPart.length :=
            Nat.le_antisymm (otherIllFormed.length_le isIllFormed same)
              (isIllFormed.length_le otherIllFormed same.symm)
          obtain ⟨rfl, rfl⟩ := List.append_inj same length_eq
          rw [inductionHypothesis otherBehind]

/-- The decoder finds the text that octets are. -/
theorem decoded_iff {octets : List UInt8} {text : List Char} :
    Decoded octets text ↔ decode octets = text := by
  have found : Decoded octets (decode octets) := (decoded_decodeFrom octets).1
  constructor
  · exact fun decoded => found.unique decoded
  · rintro rfl
    exact found

end Uniqueness

section Cut

/-- No character begins with octets among which, behind the first one, there is the first one of a
character. -/
theorem not_begins_of_first {front others : List UInt8} {octet : UInt8} (nonempty : front ≠ [])
    (first : octet.IsUTF8FirstByte) : ¬ Begins (front ++ octet :: others) := by
  rintro ⟨character, behind, encoded⟩
  have inside : front.length < (utf8EncodeChar character).length := by
    rw [← encoded]
    simp
  have found : (utf8EncodeChar character)[front.length] = octet := by
    simp [← encoded]
  have start : front.length = 0 :=
    UInt8.isUTF8FirstByte_getElem_utf8EncodeChar.mp (found.symm ▸ first)
  exact nonempty (List.length_eq_zero_iff.mp start)

/-- Octets in front of which others may be cut off: the first one of a character leads them, if
there is any. -/
def Leads (octets : List UInt8) : Prop :=
  ∀ octet, octets.head? = some octet → octet.IsUTF8FirstByte

/-- The octets of a character lead others. -/
theorem leads_encodeChar (character : Char) (rest : List UInt8) :
    Leads (utf8EncodeChar character ++ rest) := by
  intro octet isHead
  obtain ⟨first, others, encoded⟩ :=
    List.exists_cons_of_ne_nil (@String.utf8EncodeChar_ne_nil character)
  have isFirst : (utf8EncodeChar character)[0]? = some octet := by
    rw [← isHead, encoded]
    rfl
  obtain ⟨inside, found⟩ := List.getElem?_eq_some_iff.mp isFirst
  exact found ▸ UInt8.isUTF8FirstByte_getElem_utf8EncodeChar.mpr rfl

/-- Octets that come after an ill-formed part do not change it. -/
theorem IsIllFormed.append {part rest after : List UInt8} (isIllFormed : IsIllFormed part rest)
    (leads : Leads after) : IsIllFormed part (rest ++ after) := by
  refine isIllFormed_of_front isIllFormed.ne_nil isIllFormed.begins isIllFormed.unreadable
    isIllFormed.longest ?_ (List.append_assoc part rest after).symm
  rintro more ⟨others, rfl⟩ nonempty
  obtain ⟨octet, others, rfl⟩ := List.exists_cons_of_ne_nil nonempty
  exact not_begins_of_first (List.append_ne_nil_of_left_ne_nil isIllFormed.ne_nil rest)
    (leads octet rfl)

/-- Octets are cut in front of a character as their text is. -/
theorem Decoded.append {before after : List UInt8} {text others : List Char}
    (decoded : Decoded before text) (leads : Leads after) (behind : Decoded after others) :
    Decoded (before ++ after) (text ++ others) := by
  induction decoded with
  | nil => exact behind
  | character character _ inductionHypothesis =>
      rw [List.append_assoc]
      exact .character character inductionHypothesis
  | illFormed isIllFormed _ inductionHypothesis =>
      rw [List.append_assoc]
      exact .illFormed (isIllFormed.append leads) inductionHypothesis

theorem decode_append (before : List UInt8) {after : List UInt8} (leads : Leads after) :
    decode (before ++ after) = decode before ++ decode after :=
  decoded_iff.mp ((decoded_iff.mpr rfl).append leads (decoded_iff.mpr rfl))

/-- A character is read wherever its octets stand, and what stands around it is read as if it stood
alone. -/
theorem decode_encodeChar (before : List UInt8) (character : Char) (after : List UInt8) :
    decode (before ++ (utf8EncodeChar character ++ after)) =
      decode before ++ character :: decode after := by
  rw [decode_append before (leads_encodeChar character after),
    decoded_iff.mp (.character character (decoded_iff.mpr rfl))]

/-- The octets of a text are that text. -/
theorem decode_encode (text : List Char) : decode (encode text) = text := by
  rw [encode_eq_flatMap]
  induction text with
  | nil => rfl
  | cons character text inductionHypothesis =>
      rw [List.flatMap_cons, ← List.nil_append (_ ++ _), decode_encodeChar, inductionHypothesis]
      rfl

/-- A mark of the order of octets is a character like any other. -/
example : decode [0xEF, 0xBB, 0xBF, 0x61] = ['\ufeff', 'a'] := by decide

/-- A character of the text stands among the octets, unless it marks an ill-formed part. -/
theorem encodeChar_infix_of_mem {octets : List UInt8} {character : Char}
    (mem : character ∈ decode octets) (noMark : character ≠ replacement) :
    utf8EncodeChar character <:+: octets := by
  have decoded : Decoded octets (decode octets) := decoded_iff.mpr rfl
  generalize decode octets = text at decoded mem
  induction decoded with
  | nil => exact absurd mem List.not_mem_nil
  | character first behind inductionHypothesis =>
      rcases List.mem_cons.mp mem with rfl | later
      · exact List.infix_append' [] _ _
      · exact (inductionHypothesis later).trans (List.suffix_append _ _).isInfix
  | illFormed isIllFormed behind inductionHypothesis =>
      have later := (List.mem_cons.mp mem).resolve_left noMark
      exact (inductionHypothesis later).trans (List.suffix_append _ _).isInfix

end Cut

end ScriptCheck.Text.Utf8
