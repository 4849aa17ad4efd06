import ScriptCheck.Proofs.DumpReading
import ScriptCheck.Proofs.Text.Octets
import ScriptCheck.Proofs.Yaml.Folding

/-!
# The lines of a dump

A dump has one line for each of its keys, in their order, and the lines on which a scalar goes on.
`lines_laidOut` lists them all. Each of them is printable ASCII, so any system that has octets for
that can write a dump, whatever else its encoding has octets for: `printable_layout`.
-/

namespace ScriptCheck.Dump

open ScriptCheck.Text (signedDecimal mem_signedDecimal)
open ScriptCheck.Yaml

/-- Lines of a field: the first one starts with the key, and the others, on which its scalar goes
on, are further in. -/
def IsField (opening : String) (indent : Nat) (lines : List (List Char)) : Prop :=
  ∃ first others, lines = (opening.toList ++ first) :: others ∧
    ∀ line ∈ others, IsFurtherIn indent line

/-- The line above the records. -/
def heading (entries : List Entry) : List Char :=
  if entries.isEmpty then "errors: []".toList else "errors:".toList

/-- The lines of the file's name. -/
def fileLines (filepath : String) : List (List Char) :=
  Text.lines ("file: ".toList ++ write (some bestWidth) 2 6 filepath.toList)

/-- The lines of a message. -/
def messageLines (message : String) : List (List Char) :=
  Text.lines ("  message: ".toList ++ write (some bestWidth) 4 11 message.toList)

/-- The lines of a record. -/
def Entry.lines (entry : Entry) : List (List Char) :=
  ("- line: ".toList ++ signedDecimal entry.line) ::
    ("  column: ".toList ++ signedDecimal entry.column) :: messageLines entry.message

section Lines

/-- A scalar behind its key makes a field. -/
theorem isField_write {opening : String} (oneLine : '\n' ∉ opening.toList) (indent column : Nat)
    (text : List Char) :
    IsField opening indent
      (Text.lines (opening.toList ++ write (some bestWidth) indent column text)) :=
  ⟨_, _, Text.lines_append_line oneLine _, goesOnIn_write⟩

/-- A number behind its key is on one line. -/
theorem newline_not_mem_number {opening : String} (oneLine : '\n' ∉ opening.toList)
    (number : Int) : '\n' ∉ opening.toList ++ signedDecimal number := by
  rw [List.mem_append, not_or]
  exact ⟨oneLine, fun mem => absurd (mem_signedDecimal mem) (by decide)⟩

/-- The lines of an item. -/
theorem lines_item (entry : Entry) : Text.lines ('-' :: ' ' :: entry.text) = entry.lines := by
  have cut : '-' :: ' ' :: entry.text =
      ("- line: ".toList ++ signedDecimal entry.line) ++ '\n' ::
        (("  column: ".toList ++ signedDecimal entry.column) ++ '\n' ::
          ("  message: ".toList ++ write (some bestWidth) 4 11 entry.message.toList)) := by
    simp [Entry.text, Entry.columnText, Entry.messageText, keyed, newLine, List.replicate_succ]
  rw [cut, Text.lines_append_newline (newline_not_mem_number (by decide) _),
    Text.lines_append_newline (newline_not_mem_number (by decide) _)]
  rfl

/-- Items follow each other line by line. -/
theorem lines_items (before : List Char) (entries : List Entry) :
    Text.lines (before ++ (itemsText entries ++ ['\n'])) =
      Text.lines before ++ (entries.flatMap Entry.lines ++ [[]]) := by
  induction entries generalizing before with
  | nil => exact Text.lines_append_feed before []
  | cons entry entries inductionHypothesis =>
      have cut : itemsText (entry :: entries) ++ ['\n'] =
          '\n' :: ('-' :: ' ' :: entry.text ++ (itemsText entries ++ ['\n'])) := by
        simp [itemsText, newLine]
      rw [cut, Text.lines_append_feed, inductionHypothesis, lines_item, List.flatMap_cons,
        List.append_assoc]

/-- The lines of a dump, and the empty one behind its last line end. -/
theorem lines_laidOut (filepath : String) (entries : List Entry) :
    Text.lines (laidOut filepath entries) =
      fileLines filepath ++ heading entries :: (entries.flatMap Entry.lines ++ [[]]) := by
  have cut : laidOut filepath entries =
      ("file: ".toList ++ write (some bestWidth) 2 6 filepath.toList) ++ '\n' ::
        ("errors:".toList ++ (errorsText entries ++ ['\n'])) := by
    simp [laidOut_eq, newLine]
  have errors : Text.lines ("errors:".toList ++ (errorsText entries ++ ['\n'])) =
      heading entries :: (entries.flatMap Entry.lines ++ [[]]) := by
    cases entries with
    | nil => decide
    | cons entry entries => exact lines_items "errors:".toList (entry :: entries)
  rw [cut, Text.lines_append_feed, errors, fileLines]

end Lines

/-- What every system can write: printable ASCII, and the line feed. -/
def IsPrintable (character : Char) : Prop :=
  character = '\n' ∨ (0x20 ≤ character.toNat ∧ character.toNat ≤ 0x7E)

/-- What is printable is ASCII. -/
theorem IsPrintable.toNat_lt {character : Char} (printable : IsPrintable character) :
    character.toNat < 0x80 := by
  rcases printable with rfl | ⟨-, small⟩
  · decide
  · omega

/-- An encoding, by the octets of each character that it has any for. -/
abbrev Encoding := Char → Option (List UInt8)

/-- The octets of a text, unless one of its characters has none. -/
def Encoding.encode (encoding : Encoding) : List Char → Option (List UInt8)
  | [] => some []
  | character :: rest => do return (← encoding character) ++ (← encoding.encode rest)

section Encodings

variable {encoding : Encoding} {text : List Char}

/-- A text can be written if its characters can. -/
theorem isSome_encode (each : ∀ character ∈ text, (encoding character).isSome) :
    (encoding.encode text).isSome := by
  induction text with
  | nil => rfl
  | cons character rest inductionHypothesis =>
      rw [List.forall_mem_cons] at each
      obtain ⟨octets, first⟩ := Option.isSome_iff_exists.mp each.1
      obtain ⟨others, behind⟩ := Option.isSome_iff_exists.mp (inductionHypothesis each.2)
      simp [Encoding.encode, first, behind]

/-- A text whose characters are written by their codes is written by these codes. -/
theorem encode_eq_codes
    (each : ∀ character ∈ text, encoding character = some [UInt8.ofNat character.toNat]) :
    encoding.encode text = some (text.map fun character => UInt8.ofNat character.toNat) := by
  induction text with
  | nil => rfl
  | cons character rest inductionHypothesis =>
      rw [List.forall_mem_cons] at each
      simp [Encoding.encode, each.1, inductionHypothesis each.2]

end Encodings

/-- A dump is printable. -/
theorem isPrintable_of_mem_laidOut {filepath : String} {entries : List Entry} {character : Char}
    (mem : character ∈ laidOut filepath entries) : IsPrintable character := by
  have ordinary := List.all_eq_true.mp (all_isOrdinary_laidOut filepath entries) character mem
  simpa only [IsPrintable, isOrdinary, Bool.or_eq_true, beq_iff_eq, Bool.and_eq_true,
    decide_eq_true_eq] using ordinary

/-- A dump ends with a line end. -/
theorem getLast?_laidOut (filepath : String) (entries : List Entry) :
    (laidOut filepath entries).getLast? = some '\n' := by
  rw [laidOut_eq]
  simp [List.getLast?_append, List.getLast?_cons]

/-- Whatever the file is called and whatever the records hold, a dump is printable ASCII that ends
with a line end. Its lines are those of the file's name, the one above the records, and a group for
each record, in order: the line, the column and the message. Each starts with its key, but for those
on which the scalar of a name or a message goes on, and these are empty or further in. So every
system that has octets for printable ASCII can write a dump; if these are the codes, as in most
encodings, they are the octets that a call writes. The only exception is an integer of too many
digits: with one of those there is no dump. -/
theorem printable_layout (limits : Limits) (filepath : String) (entries : List Entry) :
    ((∀ entry ∈ entries, limits.Writes entry.line ∧ limits.Writes entry.column) →
      ∃ text, Dump.text limits filepath (entries.map Entry.record) = .ok text ∧
        (∀ character ∈ text, IsPrintable character) ∧
        text.getLast? = some '\n' ∧
        Text.lines text =
          fileLines filepath ++ heading entries :: (entries.flatMap Entry.lines ++ [[]]) ∧
        IsField "file: " 2 (fileLines filepath) ∧
        "errors:".toList <+: heading entries ∧
        (∀ entry : Entry, IsField "  message: " 4 (messageLines entry.message)) ∧
        (∀ encoding : Encoding,
          (∀ character, IsPrintable character → (encoding character).isSome) →
          (encoding.encode text).isSome) ∧
        (∀ encoding : Encoding,
          (∀ character, IsPrintable character →
            encoding character = some [UInt8.ofNat character.toNat]) →
          encoding.encode text = some (Text.Utf8.encode text))) ∧
    ((∃ entry ∈ entries, ¬ (limits.Writes entry.line ∧ limits.Writes entry.column)) →
      Dump.text limits filepath (entries.map Entry.record) = .error limits.digitFault) := by
  have given := text_record limits filepath entries
  refine ⟨fun written => ?_, fun ⟨entry, listed, unwritten⟩ =>
    given.trans (if_neg fun written => unwritten (written entry listed))⟩
  have printable : ∀ character ∈ laidOut filepath entries, IsPrintable character :=
    fun _ mem => isPrintable_of_mem_laidOut mem
  refine ⟨laidOut filepath entries, given.trans (if_pos written), printable,
    getLast?_laidOut filepath entries, lines_laidOut filepath entries,
    isField_write (by decide) 2 6 _, ?_, fun entry => isField_write (by decide) 4 11 _,
    fun encoding writes => ?_, fun encoding writes => ?_⟩
  · unfold heading
    split <;> decide
  · exact isSome_encode fun character mem => writes character (printable character mem)
  · rw [Text.Utf8.encode_ascii fun character mem => (printable character mem).toNat_lt]
    exact encode_eq_codes fun character mem => writes character (printable character mem)

/-- A system that has octets for ASCII only can write what was found in a file with a foreign
name. -/
theorem foreign_name_dumped :
    let ascii : Encoding := fun character =>
      if character.toNat < 0x80 then some [UInt8.ofNat character.toNat] else none
    Limits.usual.Writes 1 ∧ Limits.usual.Writes 2 ∧
    ∃ text, Dump.text .usual "\u65e5" [.ofPlace 1 2 "a\u0085b"] = .ok text ∧
      text = "file: \"\\u65E5\"\nerrors:\n- line: 1\n  column: 2\n  message: \"a\\Nb\"\n".toList ∧
      IsPrintable '\n' ∧ ascii '\u65e5' = none ∧
      (ascii.encode text).isSome ∧ ascii.encode text = some (Text.Utf8.encode text) := by
  intro ascii
  have one : Limits.usual.Writes 1 := Limits.writes_of_small (by decide)
  have two : Limits.usual.Writes 2 := Limits.writes_of_small (by decide)
  obtain ⟨text, given, printable, last, -, -, -, -, writable, same⟩ :=
    (printable_layout .usual "\u65e5" [⟨1, 2, "a\u0085b"⟩]).1
      (List.forall_mem_singleton.2 ⟨one, two⟩)
  have lineEnd : '\n' ∈ text := List.mem_of_getLast? last
  refine ⟨one, two, text, given, ?_, printable '\n' lineEnd, by decide,
    writable ascii fun character isPrintable => ?_, same ascii fun character isPrintable => ?_⟩
  · have written : Dump.text .usual "\u65e5" [.ofPlace 1 2 "a\u0085b"] =
        .ok (laidOut "\u65e5" [⟨1, 2, "a\u0085b"⟩]) :=
      (text_record .usual _ [⟨1, 2, "a\u0085b"⟩]).trans
        (if_pos (List.forall_mem_singleton.2 ⟨one, two⟩))
    refine (Except.ok.inj (given.symm.trans written)).trans ?_
    decide +kernel
  · simp only [ascii, isPrintable.toNat_lt, ↓reduceIte, Option.isSome_some]
  · simp only [ascii, isPrintable.toNat_lt, ↓reduceIte]

end ScriptCheck.Dump
