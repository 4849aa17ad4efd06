import Mathlib.Data.Bool.Basic
import ScriptCheck.Proofs.Dumping
import ScriptCheck.Proofs.Limits
import ScriptCheck.Proofs.Yaml.Block

/-!
# Dumps are read back

`Dump.text` lays records out as a YAML document, unless there is an integer of too many digits.
Reading the document gives the file and the records back, each line and column as an integer, and
the file and each message as a text, whatever characters they hold.
-/

namespace ScriptCheck.Dump

open ScriptCheck.Text (signedDecimal mem_signedDecimal)
open ScriptCheck.Yaml

/-- A key in front of what is written behind it on its line. -/
def keyed (key : String) (text : List Char) : List Char := key.toList ++ ':' :: ' ' :: text

/-- What a record of a check holds. -/
structure Entry where
  line : Int
  column : Int
  message : String

namespace Entry

/-- The record. -/
def record (entry : Entry) : Record := .ofPlace entry.line entry.column entry.message

/-- Whether the line and the column are written. -/
def IsWritten (limits : Limits) (entry : Entry) : Prop :=
  limits.Writes entry.line ∧ limits.Writes entry.column

instance (limits : Limits) (entry : Entry) : Decidable (entry.IsWritten limits) :=
  inferInstanceAs (Decidable (_ ∧ _))

/-- What a record is composed as. -/
def node (entry : Entry) : Node :=
  .mapping [(.scalar none "line".toList, .scalar (some .int) (signedDecimal entry.line)),
    (.scalar none "column".toList, .scalar (some .int) (signedDecimal entry.column)),
    (.scalar none "message".toList, .scalar none entry.message.toList)]

/-- What the document says of a record. -/
def document (entry : Entry) : Document :=
  .mapping [(.text "line", .int entry.line), (.text "column", .int entry.column),
    (.text "message", .text entry.message)]

/-- What is written of the message. -/
def messageText (entry : Entry) : List Char :=
  keyed "message" (write (some bestWidth) 4 11 entry.message.toList)

/-- What is written from the column on. -/
def columnText (entry : Entry) : List Char :=
  keyed "column" (signedDecimal entry.column ++ (newLine 2 ++ entry.messageText))

/-- What is written of a record. -/
def text (entry : Entry) : List Char :=
  keyed "line" (signedDecimal entry.line ++ (newLine 2 ++ entry.columnText))

end Entry

/-- What is written of records in a list. -/
def itemsText (entries : List Entry) : List Char :=
  entries.flatMap fun entry => newLine 0 ++ '-' :: ' ' :: entry.text

/-- What is written of records behind the key that holds them. -/
def errorsText (entries : List Entry) : List Char :=
  if entries.isEmpty then [' ', '[', ']'] else itemsText entries

/-- The lines of a dump. -/
def laidOut (filepath : String) (entries : List Entry) : List Char :=
  documentLines (fields filepath (entries.map Entry.record))

/-- What a dump is composed as. -/
def node (filepath : String) (entries : List Entry) : Node :=
  .mapping [(.scalar none "file".toList, .scalar none filepath.toList),
    (.scalar none "errors".toList, .list (entries.map Entry.node))]

/-- What a dump holds. -/
def document (filepath : String) (entries : List Entry) : Document :=
  .mapping [(.text "file", .text filepath), (.text "errors", .list (entries.map Entry.document))]

/-- The keys of a dump are written as they stand. -/
theorem plainKey_of_mem {key : String}
    (mem : key ∈ ["file", "errors", "line", "column", "message"]) :
    PlainKey key.toList := by
  have short : ∀ key ∈ ["file", "errors", "line", "column", "message"],
      isLongKey key.toList = false := by decide
  have allowed : ∀ key ∈ ["file", "errors", "line", "column", "message"],
      allowsPlain key.toList = true := by decide
  have untyped : ∀ key ∈ ["file", "errors", "line", "column", "message"],
      Implicit.isTyped key.toList = false := by decide +kernel
  exact ⟨short key mem, allowed key mem, untyped key mem⟩

theorem layOut_describe (entry : Entry) :
    layOut .item 0 1 (describe entry.record) = ' ' :: entry.text := by
  have isLine : PlainKey "line".toList := plainKey_of_mem (by simp)
  have isColumn : PlainKey "column".toList := plainKey_of_mem (by simp)
  have isMessage : PlainKey "message".toList := plainKey_of_mem (by simp)
  rw [describe, layOut_fields, layOutFields_cons isLine, layOutFields_cons isColumn,
    layOutFields_cons isMessage, Entry.record, Record.ofPlace, layOut_int, layOut_int, layOut_text,
    layOutFields]
  have length : "message".toList.length = 7 := by decide
  simp only [Entry.text, Entry.columnText, Entry.messageText, keyed, Bool.false_eq_true,
    ↓reduceIte, List.cons_append, List.nil_append, List.append_nil, length, Nat.zero_add,
    Nat.reduceAdd]

theorem layOutItems_records (entries : List Entry) :
    layOutItems 0 false ((entries.map Entry.record).map describe) = itemsText entries := by
  induction entries with
  | nil => rfl
  | cons entry entries inductionHypothesis =>
      rw [List.map_cons, List.map_cons, layOutItems, inductionHypothesis, layOut_describe,
        itemsText, itemsText, List.flatMap_cons, List.append_assoc]
      rfl

/-- Lines and columns of records are all that may have too many digits. -/
theorem text_record (limits : Limits) (filepath : String) (entries : List Entry) :
    Dump.text limits filepath (entries.map Entry.record) =
      if ∀ entry ∈ entries, entry.IsWritten limits then .ok (laidOut filepath entries)
      else .error limits.digitFault := by
  have written (entry : Entry) : entry.record.IsDumped limits ↔ entry.IsWritten limits :=
    Record.ofPlace_isDumped
  simp only [text_eq, List.forall_mem_map, written, laidOut]

/-- How a dump is laid out. -/
theorem laidOut_eq (filepath : String) (entries : List Entry) :
    laidOut filepath entries =
      "file".toList ++ ':' :: ' ' :: (write (some bestWidth) 2 6 filepath.toList ++
        (newLine 0 ++ ("errors".toList ++ ':' :: (errorsText entries ++ ['\n'])))) := by
  have errors (column : Nat) : layOut .key 0 column
      (.list ((entries.map Entry.record).map describe)) = errorsText entries := by
    cases entries with
    | nil => exact layOut_empty _ _ _
    | cons entry entries => exact layOutItems_records (entry :: entries)
  rw [laidOut, fields, documentLines.eq_def]
  dsimp only
  rw [layOutFields_cons (plainKey_of_mem (by simp)), layOutFields_cons (plainKey_of_mem (by simp)),
    errors, layOut_text, layOutFields]
  have length : "file".toList.length = 4 := by decide
  have opening (rest : List Char) : (newLine 0 ++ rest).drop 1 = rest := rfl
  simp only [Bool.false_eq_true, ↓reduceIte, opening, length, List.append_assoc, List.cons_append,
    List.append_nil]

section Reading

variable {fuel column next : Nat} {follow tail behind : List Char}
  {others : List (Node × Node)}

/-- A field with an integer in front of others is read back. -/
theorem fields_integer {key nextKey : String} (isKey : PlainKey key.toList)
    (isNext : PlainKey nextKey.toList) (number : Int)
    (more : Reader.fields (fuel + 1) column (nextKey.toList ++ ':' :: follow) =
      some (others, tail)) :
    Reader.fields (fuel + 2) column (key.toList ++ ':' :: ' ' :: (signedDecimal number ++
      (newLine column ++ (nextKey.toList ++ ':' :: follow)))) =
      some ((.scalar none key.toList, .scalar (some .int) (signedDecimal number)) :: others,
        tail) := by
  have ends := Reader.endsPlain_key isNext (Nat.lt_succ_self column) follow
  exact Reader.fields_cons isKey rfl isNext (Reader.value_signedDecimal ends number) more

/-- The fields of a record are read back. -/
theorem fields_entry (entry : Entry) (ends : EndsPlain 3 tail)
    (line : Reader.nextLine? tail = some (next, behind)) (left : behind = [] ∨ next < 2) :
    Reader.fields (fuel + 4) 2 (entry.text ++ tail) =
      some ([(.scalar none "line".toList, .scalar (some .int) (signedDecimal entry.line)),
        (.scalar none "column".toList, .scalar (some .int) (signedDecimal entry.column)),
        (.scalar none "message".toList, .scalar none entry.message.toList)], tail) := by
  have isLine : PlainKey "line".toList := plainKey_of_mem (by simp)
  have isColumn : PlainKey "column".toList := plainKey_of_mem (by simp)
  have isMessage : PlainKey "message".toList := plainKey_of_mem (by simp)
  have inside : 2 + 1 ≤ 4 := by decide
  have narrow : isOverfull (some bestWidth) 5 = false := rfl
  have message : Reader.fields (fuel + 2) 2 _ = _ := Reader.fields_last isMessage rfl
    (Reader.value_write inside narrow ends 11 entry.message.toList) line left
  simp only [Entry.text, Entry.columnText, Entry.messageText, keyed, List.append_assoc,
    List.cons_append]
  exact fields_integer isLine isColumn _ (fields_integer isColumn isMessage _ message)

/-- A record is read back behind the dash of its item. -/
theorem item_entry (entry : Entry) (ends : EndsPlain 3 tail)
    (line : Reader.nextLine? tail = some (next, behind)) (left : behind = [] ∨ next < 2) :
    Reader.item (fuel + 6) 0 (' ' :: (entry.text ++ tail)) = some (entry.node, tail) := by
  have isLine : PlainKey "line".toList := plainKey_of_mem (by simp)
  have found : Reader.fields (fuel + 4) 2 (entry.text ++ tail) = _ :=
    fields_entry entry ends line left
  rw [Entry.text, keyed, List.append_assoc, List.cons_append] at found ⊢
  rw [Reader.item_fields isLine rfl, found]
  rfl

/-- The records of a dump are read back, up to the line end that closes it. -/
theorem items_entries (entry : Entry) (entries : List Entry) :
    Reader.items (fuel + entries.length + 7) 0
        ('-' :: ' ' :: (entry.text ++ (itemsText entries ++ ['\n']))) =
      some ((entry :: entries).map Entry.node, ['\n']) := by
  induction entries generalizing entry with
  | nil =>
      have line : Reader.nextLine? ['\n'] = some (0, []) := rfl
      exact Reader.items_last (item_entry entry (endsPlain_last 3) line (.inl rfl)) line (.inl rfl)
  | cons following entries inductionHypothesis =>
      let rest := ' ' :: (following.text ++ (itemsText entries ++ ['\n']))
      have written : itemsText (following :: entries) ++ ['\n'] = newLine 0 ++ '-' :: rest := by
        simp only [itemsText, List.flatMap_cons, List.append_assoc, List.cons_append, rest]
      have ends : EndsPlain 3 (newLine 0 ++ '-' :: rest) :=
        endsPlain_line (by decide) (by decide) (by decide) rest
      have line : Reader.nextLine? (newLine 0 ++ '-' :: rest) = some (0, '-' :: rest) :=
        Reader.nextLine?_newLine (by decide) (by decide) 0
      rw [written]
      exact Reader.items_more (item_entry entry ends line (.inr (by decide))) line rfl
        (inductionHypothesis following)

/-- What a dump says of its records is read back behind its key. -/
theorem value_errors (entries : List Entry) :
    Reader.value (fuel + entries.length + 9) 0 (errorsText entries ++ ['\n']) =
      some (.list (entries.map Entry.node), ['\n']) := by
  cases entries with
  | nil => exact Reader.value_empty
  | cons entry entries =>
      have written : errorsText (entry :: entries) ++ ['\n'] =
          newLine 0 ++ '-' :: ' ' :: (entry.text ++ (itemsText entries ++ ['\n'])) := by
        simp only [errorsText, itemsText, List.isEmpty_cons, Bool.false_eq_true, ↓reduceIte,
          List.flatMap_cons, List.append_assoc, List.cons_append]
      have read : Reader.items (fuel + 1 + entries.length + 7) 0 _ = _ :=
        items_entries entry entries
      have turns : fuel + 1 + entries.length + 7 = fuel + (entries.length + 1) + 7 := by omega
      rw [turns] at read
      rw [written, List.length_cons, Reader.value_items rfl, read]
      rfl

end Reading

section Printable

/-- An integer needs no escape. -/
theorem all_isOrdinary_signedDecimal (number : Int) :
    (signedDecimal number).all isOrdinary = true := by
  have each : ∀ character ∈ "-0123456789".toList, isOrdinary character = true := by decide
  exact List.all_eq_true.mpr fun character mem => each character (mem_signedDecimal mem)

/-- A key needs no escape in front of what needs none. -/
theorem all_isOrdinary_keyed {key : String}
    (mem : key ∈ ["file", "errors", "line", "column", "message"]) (text : List Char) :
    (keyed key text).all isOrdinary = text.all isOrdinary := by
  have each : ∀ key ∈ ["file", "errors", "line", "column", "message"],
      key.toList.all isOrdinary = true := by decide
  have colon : isOrdinary ':' = true := by decide
  have space : isOrdinary ' ' = true := by decide
  simp only [keyed, List.all_append, List.all_cons, each key mem, colon, space, Bool.true_and]

/-- What is written of a record needs no escape. -/
theorem all_isOrdinary_entry (entry : Entry) : entry.text.all isOrdinary = true := by
  have lineEnd : (newLine 2).all isOrdinary = true := by decide
  simp [Entry.text, Entry.columnText, Entry.messageText, all_isOrdinary_keyed,
    all_isOrdinary_signedDecimal, all_isOrdinary_write, lineEnd]

/-- What is written of all records needs no escape. -/
theorem all_isOrdinary_errors (entries : List Entry) :
    (errorsText entries).all isOrdinary = true := by
  have items : (itemsText entries).all isOrdinary = true := by
    refine List.all_eq_true.mpr fun character mem => ?_
    obtain ⟨entry, -, mem⟩ := List.mem_flatMap.mp mem
    have opening : (newLine 0 ++ ['-', ' ']).all isOrdinary = true := by decide
    have all : (newLine 0 ++ ['-', ' '] ++ entry.text).all isOrdinary = true := by
      rw [List.all_append, opening, all_isOrdinary_entry, Bool.and_self]
    exact List.all_eq_true.mp all character (by simpa using mem)
  unfold errorsText
  split
  next => decide
  next => exact items

end Printable

/-- Every record has a character of its own. -/
theorem length_le_errorsText (entries : List Entry) :
    entries.length ≤ (errorsText entries).length := by
  have items : entries.length ≤ (itemsText entries).length := by
    induction entries with
    | nil => exact Nat.zero_le _
    | cons entry entries inductionHypothesis =>
        simp only [itemsText, newLine, List.flatMap_cons, List.length_append, List.length_cons]
          at inductionHypothesis ⊢
        omega
  unfold errorsText
  split
  next isEmpty => simp [List.isEmpty_iff.mp isEmpty]
  next => exact items

/-- A blank or a line end stands behind the key that holds the records. -/
theorem blankNext_errors (entries : List Entry) (rest : List Char) :
    Reader.blankNext (errorsText entries ++ rest) = true := by
  cases entries <;> rfl

/-- The fields of a dump are read back, up to the line end that closes it. -/
theorem fields_dump (fuel : Nat) (filepath : String) (entries : List Entry) :
    Reader.fields (fuel + entries.length + 11) 0
        (laidOut filepath entries) =
      some ([(.scalar none "file".toList, .scalar none filepath.toList),
        (.scalar none "errors".toList, .list (entries.map Entry.node))], ['\n']) := by
  have isFile : PlainKey "file".toList := plainKey_of_mem (by simp)
  have isErrors : PlainKey "errors".toList := plainKey_of_mem (by simp)
  have line : Reader.nextLine? ['\n'] = some (0, []) := rfl
  have errors : Reader.fields (fuel + entries.length + 10) 0 _ = _ := Reader.fields_last isErrors
    (blankNext_errors entries _) (value_errors entries) line (.inl rfl)
  have inside : 0 + 1 ≤ 2 := by decide
  have narrow : isOverfull (some bestWidth) 3 = false := rfl
  have ends := Reader.endsPlain_key isErrors Nat.zero_lt_one (errorsText entries ++ ['\n'])
  rw [laidOut_eq]
  exact Reader.fields_cons isFile rfl isErrors
    (Reader.value_write inside narrow ends 6 filepath.toList) errors

/-- A dump holds no character that needs an escape. -/
theorem all_isOrdinary_laidOut (filepath : String) (entries : List Entry) :
    (laidOut filepath entries).all isOrdinary = true := by
  have file : (keyed "file" (write (some bestWidth) 2 6 filepath.toList)).all isOrdinary =
      true := (all_isOrdinary_keyed (by simp) _).trans all_isOrdinary_write
  have errors : (keyed "errors" []).all isOrdinary = true :=
    all_isOrdinary_keyed (by simp) []
  have lineEnd : isOrdinary '\n' = true := by decide
  simp only [keyed, List.all_append, List.all_cons, List.all_nil, Bool.and_true,
    Bool.and_eq_true] at file errors
  simp only [laidOut_eq, newLine, List.all_append, List.all_cons, List.replicate_zero, List.all_nil,
    all_isOrdinary_errors, file, errors, lineEnd, Bool.and_self]

/-- So it holds none that a document may not hold. -/
theorem all_isAllowed_laidOut (filepath : String) (entries : List Entry) :
    (laidOut filepath entries).all Reader.isAllowed = true :=
  List.all_eq_true.mpr fun character mem => isAllowed_of_isOrdinary
    (List.all_eq_true.mp (all_isOrdinary_laidOut filepath entries) character mem)

/-- A dump is composed as the mapping of the file and the records, in their order. -/
theorem compose_laidOut (filepath : String) (entries : List Entry) :
    Yaml.compose (laidOut filepath entries) = some (node filepath entries) := by
  have isFile : PlainKey "file".toList := plainKey_of_mem (by simp)
  obtain ⟨rest, written, blank, long⟩ : ∃ rest,
      laidOut filepath entries = "file".toList ++ ':' :: rest ∧
        Reader.blankNext rest = true ∧ entries.length ≤ rest.length := by
    refine ⟨_, laidOut_eq filepath entries, rfl, ?_⟩
    have length_le := length_le_errorsText entries
    simp only [List.length_cons, List.length_append]
    omega
  obtain ⟨fuel, enough⟩ : ∃ fuel,
      2 * (laidOut filepath entries).length + 2 = fuel + entries.length + 11 + 1 := by
    refine ⟨_, (Nat.sub_add_cancel (m := entries.length + 12) ?_).symm⟩
    have length : "file".toList.length = 4 := by decide
    rw [written, List.length_append, List.length_cons, length]
    omega
  have start : Reader.nextToken 0 (laidOut filepath entries) = (0, laidOut filepath entries) := by
    obtain ⟨first, others, same, notSpace, notEnd⟩ := Reader.exists_cons_of_plainKey isFile
    rw [written, same]
    exact Reader.nextToken_token notSpace notEnd
  have node : Reader.node (fuel + entries.length + 11 + 1) 0 0 (laidOut filepath entries) =
      some (node filepath entries, ['\n']) := by
    have fields := fields_dump fuel filepath entries
    rw [written] at fields ⊢
    rw [Reader.node_fields isFile blank, fields]
    rfl
  have line : Reader.nextLine? ['\n'] = some (0, []) := rfl
  simp only [Yaml.compose, start, enough, node, line, all_isAllowed_laidOut, Option.bind_eq_bind,
    Option.bind_some, List.isEmpty_nil, Bool.and_self, ↓reduceIte]
  rfl

/-- A record is given its values, unless there is an integer of too many digits. -/
theorem Entry.document?_node (limits : Limits) (entry : Entry) :
    entry.node.document? limits =
      if entry.IsWritten limits then some entry.document else none := by
  by_cases lineWrites : limits.Writes entry.line <;>
    by_cases columnWrites : limits.Writes entry.column <;>
      simp [node, document, IsWritten, Node.document?, Node.fieldDocuments?, intOf?_signedDecimal,
        lineWrites, columnWrites]

/-- Records are given their values, unless there is such an integer in one of them. -/
theorem itemDocuments?_node (limits : Limits) (entries : List Entry) :
    Node.itemDocuments? limits (entries.map Entry.node) =
      if ∀ entry ∈ entries, entry.IsWritten limits then some (entries.map Entry.document)
      else none := by
  induction entries with
  | nil => rfl
  | cons entry entries inductionHypothesis =>
      rw [List.map_cons, Node.itemDocuments?, Entry.document?_node, inductionHypothesis]
      by_cases written : entry.IsWritten limits
      · by_cases others : ∀ entry ∈ entries, entry.IsWritten limits
        · rw [if_pos written, if_pos others, if_pos (List.forall_mem_cons.2 ⟨written, others⟩)]
          rfl
        · rw [if_pos written, if_neg others,
            if_neg fun all => others (List.forall_mem_cons.1 all).2]
          rfl
      · rw [if_neg written, if_neg fun all => written (List.forall_mem_cons.1 all).1]
        rfl

/-- What a dump is composed as stands for the file and the records. -/
theorem document?_node (limits : Limits) (filepath : String) (entries : List Entry) :
    (node filepath entries).document? limits =
      if ∀ entry ∈ entries, entry.IsWritten limits then some (document filepath entries)
      else none := by
  simp only [node, Node.document?, Node.fieldDocuments?, itemDocuments?_node]
  by_cases written : ∀ entry ∈ entries, entry.IsWritten limits
  · simp only [if_pos written]
    simp [document]
  · simp only [if_neg written]
    rfl

/-- Whatever the file is called and whatever the records hold, a dump is written and read back as
the mapping of the file and the records, in their order, each line and column as an integer, and the
file and each message as a text. The only exception is an integer of too many digits: with one of
those, nothing is written. -/
theorem read_text (limits : Limits) (filepath : String) (entries : List Entry) :
    ((∀ entry ∈ entries, limits.Writes entry.line ∧ limits.Writes entry.column) →
      ∃ text, Dump.text limits filepath (entries.map Entry.record) = .ok text ∧
        Yaml.read limits text = some (document filepath entries)) ∧
    ((∃ entry ∈ entries, ¬ (limits.Writes entry.line ∧ limits.Writes entry.column)) →
      Dump.text limits filepath (entries.map Entry.record) = .error limits.digitFault) := by
  constructor
  · intro written
    refine ⟨laidOut filepath entries,
      (text_record limits filepath entries).trans (if_pos written), ?_⟩
    rw [Yaml.read, compose_laidOut]
    exact (document?_node limits filepath entries).trans (if_pos written)
  · rintro ⟨entry, listed, unwritten⟩
    exact (text_record limits filepath entries).trans
      (if_neg fun written => unwritten (written entry listed))

/-- A name that is empty and a message that looks like a number are read back as texts. -/
theorem number_like_message_read :
    Limits.usual.Writes 3 ∧ Limits.usual.Writes 2 ∧
    ∃ text, Dump.text .usual "" [.ofPlace 3 2 "0x1F"] = .ok text ∧
      Yaml.read .usual text = some (.mapping [(.text "file", .text ""),
        (.text "errors", .list [.mapping [(.text "line", .int 3), (.text "column", .int 2),
          (.text "message", .text "0x1F")]])]) := by
  have three : Limits.usual.Writes 3 := Limits.writes_of_small (by decide)
  have two : Limits.usual.Writes 2 := Limits.writes_of_small (by decide)
  exact ⟨three, two, (read_text .usual "" [⟨3, 2, "0x1F"⟩]).1
    (List.forall_mem_singleton.2 ⟨three, two⟩)⟩

end ScriptCheck.Dump
