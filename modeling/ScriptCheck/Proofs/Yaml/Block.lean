import Mathlib.Data.Bool.Basic
import ScriptCheck.Proofs.Yaml.Integer
import ScriptCheck.Proofs.Yaml.Scalar
import ScriptCheck.Yaml.Block

/-!
# Steps of reading blocks

One lemma for each step of the reader over fields and items: what stands at its place, what it
reads there, and where the next line starts.
-/

namespace ScriptCheck.Yaml

open ScriptCheck.Text (signedDecimal decimal mem_decimal decimal_ne_nil mem_signedDecimal
  signedDecimal_cases signedDecimal_ne_nil)

/-- Without a width no line is folded. -/
theorem plainFrom_none (indent column : Nat) (behindSpace : Bool) (text : List Char) :
    plainFrom none indent column behindSpace text = text := by
  induction text generalizing column behindSpace with
  | nil => rfl
  | cons character rest inductionHypothesis =>
      rw [plainFrom, if_neg (fun folds => absurd folds.2.2.2 Bool.false_ne_true),
        inductionHypothesis]

/-- A key that is written as it stands, in front of its value. -/
structure PlainKey (key : List Char) : Prop where
  short : isLongKey key = false
  allowed : allowsPlain key = true
  untyped : Implicit.isTyped key = false

theorem PlainKey.write_none {key : List Char} (plainKey : PlainKey key) (indent column : Nat) :
    write none indent column key = key := by
  have isPlain : (allowsPlain key && !Implicit.isTyped key) = true := by
    rw [plainKey.allowed, plainKey.untyped]
    rfl
  rw [write, Style.ofText, if_pos isPlain]
  exact plainFrom_none indent column false key

section Layout

variable (holder : Holder) (indent column : Nat)

theorem layOut_int (number : Int) :
    layOut holder indent column (.int number) = ' ' :: signedDecimal number := rfl

theorem layOut_text (characters : String) :
    layOut holder indent column (.text characters) =
      ' ' :: write (some bestWidth) (indent + 2) (column + 1) characters.toList := rfl

theorem layOut_empty : layOut holder indent column (.list []) = " []".toList := rfl

theorem layOut_fields (field : String × Value) (fields : List (String × Value)) :
    layOut .item indent column (.mapping (field :: fields)) =
      layOutFields (indent + 2) true (field :: fields) := rfl

end Layout

/-- A field with such a key stands on a line of its own. -/
theorem layOutFields_cons {name : String} (plainKey : PlainKey name.toList) (indent : Nat)
    (onLine : Bool) (value : Value) (fields : List (String × Value)) :
    layOutFields indent onLine ((name, value) :: fields) =
      (if onLine then [' '] else newLine indent) ++
        (name.toList ++ ':' :: (layOut .key indent (indent + name.toList.length + 1) value ++
          layOutFields indent false fields)) := by
  rw [layOutFields]
  simp only [plainKey.short, plainKey.write_none, Bool.false_eq_true, ↓reduceIte,
    List.append_assoc, List.cons_append]

/-- What is written of a text starts with no blank and no bracket. -/
theorem exists_cons_of_write (width : Option Nat) (indent column : Nat) (text : List Char) :
    ∃ first rest, write width indent column text = first :: rest ∧
      first ≠ ' ' ∧ first ≠ '\n' ∧ first ≠ '[' := by
  rw [write, Style.ofText]
  split
  next isPlain =>
    obtain ⟨allowed, untyped⟩ := Bool.and_eq_true_iff.mp isPlain
    have plainText := plainText_of_allowsPlain allowed
    cases text with
    | nil => exact absurd untyped (by decide)
    | cons first rest =>
        have notSpace : first ≠ ' ' := by
          rintro rfl
          exact absurd plainText.inner (by simp [hasOuterSpace])
        refine ⟨first, plainFrom width indent (column + 1) (first == ' ') rest, ?_, notSpace,
          ?_, ?_⟩
        · rw [writeIn, plainFrom, if_neg (fun folds => notSpace folds.1)]
        · rintro rfl
          exact absurd (Bool.or_eq_false_iff.mp plainText.oneLine).1 (by decide)
        · rintro rfl
          exact absurd plainText.unopened (by simp [startsWithSign, isOpeningSign])
  next =>
    split
    next => exact ⟨_, _, rfl, by decide, by decide, by decide⟩
    next => exact ⟨_, _, rfl, by decide, by decide, by decide⟩

theorem hasInnerSign_of_absent {text : List Char} (noColon : ':' ∉ text) (noNumber : '#' ∉ text)
    (behindBlank : Bool) : hasInnerSign behindBlank text = false := by
  induction text generalizing behindBlank with
  | nil => rfl
  | cons first rest inductionHypothesis =>
      simp only [List.mem_cons, not_or] at noColon noNumber
      have others := inductionHypothesis noColon.2 noNumber.2 (isBlank first)
      simp [hasInnerSign, Ne.symm noColon.1, Ne.symm noNumber.1, others]

/-- No digit is a minus or a blank. -/
theorem ne_minus_of_mem_decimal {number : Nat} {character : Char}
    (mem : character ∈ decimal number) : character ≠ '-' ∧ isBlank character = false := by
  have each : ∀ digit ∈ "0123456789".toList, digit ≠ '-' ∧ isBlank digit = false := by decide
  exact each character (mem_decimal mem)

/-- No integer starts like a document: it has at most one minus, and no point. -/
theorem startsDocument_signedDecimal (value : Int) :
    startsDocument (signedDecimal value) = false := by
  have noPoint : '.' ∉ signedDecimal value := fun mem =>
    absurd (mem_signedDecimal mem) (by decide)
  rw [startsDocument, Bool.or_eq_false_iff, beq_eq_false_iff_ne, beq_eq_false_iff_ne]
  constructor
  · intro starts
    rcases signedDecimal_cases value with ⟨written, -⟩ | ⟨written, -⟩ <;> rw [written] at starts
    · have mem : '-' ∈ (decimal value.natAbs).take 3 := by rw [starts]; decide
      exact (ne_minus_of_mem_decimal (List.mem_of_mem_take mem)).1 rfl
    · have mem : '-' ∈ (decimal value.natAbs).take 2 := by
        rw [(List.cons.inj starts).2]
        decide
      exact (ne_minus_of_mem_decimal (List.mem_of_mem_take mem)).1 rfl
  · intro starts
    have mem : '.' ∈ (signedDecimal value).take 3 := by rw [starts]; decide
    exact noPoint (List.mem_of_mem_take mem)

/-- No integer starts with a sign: a digit is none, and a minus is one only before a blank. -/
theorem startsWithSign_signedDecimal (value : Int) :
    startsWithSign (signedDecimal value) = false := by
  have digits : ∀ digit ∈ "0123456789".toList, isOpeningSign digit = false ∧ digit ≠ '?' ∧
      digit ≠ ':' ∧ digit ≠ '-' := by decide
  obtain ⟨first, rest, same⟩ := List.exists_cons_of_ne_nil (decimal_ne_nil value.natAbs)
  have isFirst : first ∈ decimal value.natAbs := same ▸ List.mem_cons_self
  rcases signedDecimal_cases value with ⟨written, -⟩ | ⟨written, -⟩
  · obtain ⟨notSign, notQuestion, notColon, notMinus⟩ := digits first (mem_decimal isFirst)
    rw [written, same]
    simp [startsWithSign, notSign, notQuestion, notColon, notMinus]
  · rw [written, same, startsWithSign, blankFollows, (ne_minus_of_mem_decimal isFirst).2]
    decide

/-- An integer may be written plain. -/
theorem plainText_signedDecimal (value : Int) : PlainText (signedDecimal value) where
  unmarked := startsDocument_signedDecimal value
  unopened := startsWithSign_signedDecimal value
  unsigned := hasInnerSign_of_absent (fun mem => absurd (mem_signedDecimal mem) (by decide))
    (fun mem => absurd (mem_signedDecimal mem) (by decide)) true
  inner := by
    have noSpace : ' ' ∉ signedDecimal value := fun mem =>
      absurd (mem_signedDecimal mem) (by decide)
    rw [hasOuterSpace, Bool.or_eq_false_iff, beq_eq_false_iff_ne, beq_eq_false_iff_ne]
    exact ⟨fun first => noSpace (List.mem_of_mem_head? first),
      fun last => noSpace (List.mem_of_getLast? last)⟩
  oneLine := by
    have each : ∀ character ∈ "-0123456789".toList, ¬isBreak character = true := by decide
    exact List.any_eq_false.mpr fun character mem => each character (mem_signedDecimal mem)
  ordinary := by
    have each : ∀ character ∈ "-0123456789".toList, isOrdinary character = true := by decide
    exact List.all_eq_true.mpr fun character mem => each character (mem_signedDecimal mem)

namespace Reader

variable {fuel least column : Nat} {text rest follow behind : List Char} {key found : Node}

theorem nextToken_indentation (column indent : Nat) (rest : List Char) :
    nextToken column (List.replicate indent ' ' ++ rest) = nextToken (column + indent) rest := by
  induction indent generalizing column with
  | zero => rfl
  | succ indent inductionHypothesis =>
      rw [List.replicate_succ, List.cons_append, nextToken, if_pos rfl, inductionHypothesis,
        Nat.add_assoc, Nat.add_comm 1]

theorem nextToken_token {first : Char} (notSpace : first ≠ ' ') (notEnd : first ≠ '\n') :
    nextToken column (first :: rest) = (column, first :: rest) := by
  rw [nextToken, if_neg notSpace, if_neg notEnd]

theorem nextLine?_newLine {first : Char} (notSpace : first ≠ ' ') (notEnd : first ≠ '\n')
    (indent : Nat) :
    nextLine? (newLine indent ++ first :: rest) = some (indent, first :: rest) := by
  have found := nextToken_indentation 0 indent (first :: rest)
  rw [nextToken_token notSpace notEnd, Nat.zero_add] at found
  simp [nextLine?, newLine, found]

/-- A key that is written as it stands is read up to its colon. -/
theorem key?_append {name : List Char} (plainKey : PlainKey name) (blank : blankNext rest = true)
    (least : Nat) : key? least (name ++ ':' :: rest) = some (.scalar none name, rest) := by
  have notEmpty : name ≠ [] := by
    rintro rfl
    exact absurd plainKey.untyped (by decide)
  have plainText := plainText_of_allowsPlain plainKey.allowed
  have read := plainText.scalar none (least + 1) 0 notEmpty (Nat.succ_pos _) (Nat.le_succ least)
    (endsPlain_colon blank)
  rw [plainFrom_none, Node.ofPlain_eq_text plainKey.untyped] at read
  have short : name.length ≤ 1024 := by
    have notLong := plainKey.short
    simp only [isLongKey, Bool.or_eq_false_iff, decide_eq_false_iff_not] at notLong
    omega
  have own : (name ++ ':' :: rest).take ((name ++ ':' :: rest).length - (':' :: rest).length) =
      name := by
    rw [List.length_append, Nat.add_sub_cancel, List.take_left]
  have oneLine : '\n' ∉ name := by
    intro mem
    exact absurd plainText.oneLine (by simp; exact ⟨_, mem, rfl⟩)
  simp only [key?, read, Option.bind_eq_bind, Option.bind_some, own]
  rw [if_neg (by simp [oneLine, short])]
  simp [behindColon?, blank]

/-- A scalar or an empty sequence is read behind the colon of its key. -/
theorem value_leaf {first : Char} (notSpace : first ≠ ' ') (notEnd : first ≠ '\n')
    (read : leaf (column + 1) (first :: rest) = some (found, follow)) :
    value (fuel + 1) column (' ' :: first :: rest) = some (found, follow) := by
  have inline : (' ' :: first :: rest).dropWhile (· == ' ') = first :: rest := by
    simp [notSpace]
  rw [value, inline]
  split
  next same => cases same
  next same => exact absurd (List.cons.inj same).1 notEnd
  next => exact read

theorem leaf_of_scalar {first : Char} (notBracket : first ≠ '[') :
    leaf least (first :: rest) = scalar least (first :: rest) := by
  rw [leaf.eq_def]
  split
  next same => exact absurd (List.cons.inj same).1 notBracket
  next => rfl

/-- A text is read behind the colon of its key. -/
theorem value_write {width : Option Nat} {indent : Nat} (inside : column + 1 ≤ indent)
    (narrow : isOverfull width (indent + 1) = false) (ends : EndsPlain (column + 1) follow)
    (place : Nat) (text : List Char) :
    value (fuel + 1) column (' ' :: (write width indent place text ++ follow)) =
      some (.scalar none text, follow) := by
  have read : scalar (column + 1) (write width indent place text ++ follow) =
      some (.scalar none text, follow) :=
    scalar_write (Nat.lt_of_lt_of_le (Nat.succ_pos _) inside) inside narrow ends
  obtain ⟨first, rest, written, notSpace, notEnd, notBracket⟩ :=
    exists_cons_of_write width indent place text
  rw [written, List.cons_append] at read ⊢
  exact value_leaf notSpace notEnd ((leaf_of_scalar notBracket).trans read)

/-- An integer is read behind the colon of its key. -/
theorem value_signedDecimal (ends : EndsPlain (column + 1) follow) (number : Int) :
    value (fuel + 1) column (' ' :: (signedDecimal number ++ follow)) =
      some (.scalar (some .int) (signedDecimal number), follow) := by
  have read := (plainText_signedDecimal number).scalar none (column + 1) 0
    (signedDecimal_ne_nil number) (Nat.succ_pos _) (Nat.le_refl _) ends
  rw [plainFrom_none, Node.ofPlain_signedDecimal] at read
  obtain ⟨first, rest, written⟩ := List.exists_cons_of_ne_nil (signedDecimal_ne_nil number)
  have mem := mem_signedDecimal (written ▸ List.mem_cons_self)
  have other : ∀ first ∈ "-0123456789".toList, first ≠ ' ' ∧ first ≠ '\n' ∧ first ≠ '[' := by
    decide
  obtain ⟨notSpace, notEnd, notBracket⟩ := other first mem
  rw [written, List.cons_append] at read ⊢
  exact value_leaf notSpace notEnd ((leaf_of_scalar notBracket).trans read)

/-- An empty sequence is read behind the colon of its key. -/
theorem value_empty :
    value (fuel + 1) column (' ' :: '[' :: ']' :: follow) = some (.list [], follow) :=
  value_leaf (by decide) (by decide) (by simp [leaf])

/-- A sequence is read below its key. -/
theorem value_items (blank : blankNext rest = true) :
    value (fuel + 2) column (newLine column ++ '-' :: rest) =
      (items fuel column ('-' :: rest)).map fun (found, rest) => (.list found, rest) := by
  have line := nextToken_indentation 0 column ('-' :: rest)
  rw [nextToken_token (by decide) (by decide), Nat.zero_add] at line
  have below : (newLine column ++ '-' :: rest).dropWhile (· == ' ') =
      '\n' :: (List.replicate column ' ' ++ '-' :: rest) := rfl
  have isItem : startsItem ('-' :: rest) = true := blank
  rw [value, below]
  simp only [line, isItem, List.isEmpty_cons, Nat.lt_irrefl, Bool.not_true, Bool.false_eq_true,
    and_false, or_self, ↓reduceIte, node]

section Fields

variable {name : List Char} {nodes : List Node} {last : List Char}

/-- A key starts with no blank. -/
theorem exists_cons_of_plainKey (plainKey : PlainKey name) :
    ∃ first others, name = first :: others ∧ first ≠ ' ' ∧ first ≠ '\n' := by
  obtain ⟨first, others, written, notSpace, notEnd, -⟩ := exists_cons_of_write none 0 0 name
  rw [plainKey.write_none] at written
  exact ⟨first, others, written, notSpace, notEnd⟩

/-- Where a key starts, no item does. -/
theorem startsItem_of_plainKey (plainKey : PlainKey name) (rest : List Char) :
    startsItem (name ++ ':' :: rest) = false := by
  obtain ⟨first, others, rfl, -, -⟩ := exists_cons_of_plainKey plainKey
  by_cases isDash : first = '-'
  · subst isDash
    have unopened := (plainText_of_allowsPlain plainKey.allowed).unopened
    have noBlank : blankFollows others = false := by
      simpa [startsWithSign, isOpeningSign] using unopened
    rw [List.cons_append, startsItem, ← Bool.not_eq_true]
    intro blank
    rw [← plainFrom_none 0 0 false others] at blank
    rw [blankFollows_of_written blank] at noBlank
    exact absurd noBlank (by decide)
  · rw [List.cons_append, startsItem.eq_def]
    split
    next same => exact absurd (List.cons.inj same).1 isDash
    next => rfl

theorem nextLine?_key (plainKey : PlainKey name) (indent : Nat) (rest : List Char) :
    nextLine? (newLine indent ++ (name ++ ':' :: rest)) = some (indent, name ++ ':' :: rest) := by
  obtain ⟨first, others, rfl, notSpace, notEnd⟩ := exists_cons_of_plainKey plainKey
  exact nextLine?_newLine notSpace notEnd indent

/-- A plain scalar ends in front of a line with a key left of it. -/
theorem endsPlain_key (plainKey : PlainKey name) {indent : Nat} (left : indent < least)
    (rest : List Char) : EndsPlain least (newLine indent ++ (name ++ ':' :: rest)) := by
  obtain ⟨first, others, rfl, notSpace, notEnd⟩ := exists_cons_of_plainKey plainKey
  exact endsPlain_line left notSpace notEnd _

/-- A mapping is read where its first key stands. -/
theorem node_fields (plainKey : PlainKey name) (blank : blankNext rest = true) :
    node (fuel + 1) least column (name ++ ':' :: rest) =
      (fields fuel column (name ++ ':' :: rest)).map fun (found, rest) =>
        (.mapping found, rest) := by
  rw [node, startsItem_of_plainKey plainKey, key?_append plainKey blank]
  rfl

/-- A mapping is read behind the dash of its item. -/
theorem item_fields (plainKey : PlainKey name) (blank : blankNext rest = true) :
    item (fuel + 2) column (' ' :: (name ++ ':' :: rest)) =
      (fields fuel (column + 2) (name ++ ':' :: rest)).map fun (found, rest) =>
        (.mapping found, rest) := by
  have token : nextToken (column + 1) (' ' :: (name ++ ':' :: rest)) =
      (column + 2, name ++ ':' :: rest) := by
    obtain ⟨first, others, rfl, notSpace, notEnd⟩ := exists_cons_of_plainKey plainKey
    rw [nextToken, if_pos rfl, List.cons_append, nextToken_token notSpace notEnd]
  have isSome : (name ++ ':' :: rest).isEmpty = false := by simp
  have inside : ¬column + 2 ≤ column := by omega
  simp only [item, token, isSome, inside, Bool.false_eq_true, or_self, ↓reduceIte]
  exact node_fields plainKey blank

/-- The last field of a mapping. -/
theorem fields_last (plainKey : PlainKey name) (blank : blankNext rest = true)
    (isValue : value fuel column rest = some (found, follow)) {next : Nat}
    (line : nextLine? follow = some (next, behind)) (left : behind = [] ∨ next < column) :
    fields (fuel + 1) column (name ++ ':' :: rest) =
      some ([(.scalar none name, found)], follow) := by
  have ends : (behind.isEmpty = true ∨ next < column) := left.imp_left List.isEmpty_iff.mpr
  simp only [fields, key?_append plainKey blank, isValue, line, Option.bind_eq_bind,
    Option.bind_some, ends, ↓reduceIte]
  rfl

/-- A field of a mapping in front of others. -/
theorem fields_cons (plainKey : PlainKey name) (blank : blankNext rest = true)
    {nextName : List Char} (nextKey : PlainKey nextName)
    (isValue : value fuel column rest =
      some (found, newLine column ++ (nextName ++ ':' :: follow)))
    {others : List (Node × Node)}
    (more : fields fuel column (nextName ++ ':' :: follow) = some (others, last)) :
    fields (fuel + 1) column (name ++ ':' :: rest) =
      some ((.scalar none name, found) :: others, last) := by
  have line := nextLine?_key nextKey column follow
  have isSome : (nextName ++ ':' :: follow).isEmpty = false := by simp
  simp only [fields, key?_append plainKey blank, isValue, line, more, isSome,
    startsItem_of_plainKey nextKey, Option.bind_eq_bind, Option.bind_some, Nat.lt_irrefl,
    Bool.false_eq_true, or_self, Bool.not_false, and_self, ↓reduceIte]
  rfl

/-- The last item of a sequence. -/
theorem items_last (isItem : item fuel column rest = some (found, follow)) {next : Nat}
    (line : nextLine? follow = some (next, behind)) (left : behind = [] ∨ next < column) :
    items (fuel + 1) column ('-' :: rest) = some ([found], follow) := by
  have ends : (behind.isEmpty = true ∨ next < column ∨ next = column ∧ !startsItem behind) :=
    left.elim (fun empty => .inl (List.isEmpty_iff.mpr empty)) fun less => .inr (.inl less)
  simp only [items, List.drop_succ_cons, List.drop_zero, isItem, line, Option.bind_eq_bind,
    Option.bind_some, ends, ↓reduceIte]
  rfl

/-- An item of a sequence in front of others. -/
theorem items_more (isItem : item fuel column rest = some (found, follow))
    (line : nextLine? follow = some (column, '-' :: behind)) (blank : blankNext behind = true)
    (more : items fuel column ('-' :: behind) = some (nodes, last)) :
    items (fuel + 1) column ('-' :: rest) = some (found :: nodes, last) := by
  have another : startsItem ('-' :: behind) = true := blank
  simp only [items, List.drop_succ_cons, List.drop_zero, isItem, line, more, Option.bind_eq_bind,
    Option.bind_some, another, List.isEmpty_cons, Nat.lt_irrefl, Bool.not_true, Bool.false_eq_true,
    and_false, or_self, ↓reduceIte]
  rfl

end Fields

end Reader

end ScriptCheck.Yaml
