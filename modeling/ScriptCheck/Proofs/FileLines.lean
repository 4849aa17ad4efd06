import Mathlib.Data.List.Forall2
import ScriptCheck.Proofs.CallCourse
import ScriptCheck.Proofs.Text.LineEnds

/-!
# Lines of files

A call takes a file for text that is made of its lines one by one. So files that differ in nothing
but how their lines end have the same source, and a call cannot tell them apart: trees with such
files are alike (`Tree.Alike`), every way through them is the same, and calls on them print the same
and leave trees behind that are alike again (`indifferent_run`).
-/

namespace ScriptCheck

open Text

/-- Octets that differ in nothing but how their lines end. -/
def SameLines (octets others : List UInt8) : Prop :=
  ∃ lines, LineCut octets lines ∧ LineCut others lines

theorem SameLines.refl (octets : List UInt8) : SameLines octets octets :=
  ⟨octetLines octets, lineCut_octetLines octets, lineCut_octetLines octets⟩

namespace Files

/-- What is at a location looks the same in both trees, but for line ends. -/
inductive Entry.Alike : Entry → Entry → Prop where
  | file {octets others : List UInt8} (same : SameLines octets others) :
      Alike (.file octets) (.file others)
  | directory : Alike .directory .directory

namespace Tree

/-- Trees with the same files, but for line ends. -/
def Alike (tree other : Tree) : Prop :=
  List.Forall₂ (fun file otherFile => file.1 = otherFile.1 ∧ SameLines file.2 otherFile.2)
    tree.files other.files

namespace Alike

variable {tree other : Tree} (alike : tree.Alike other)
include alike

/-- Files are found at the same locations. -/
theorem lookup (location : Location) :
    Option.Rel SameLines (tree.files.lookup location) (other.files.lookup location) := by
  unfold Tree.Alike at alike
  generalize tree.files = files at alike ⊢
  generalize other.files = others at alike ⊢
  induction alike with
  | nil => exact .none
  | @cons file otherFile files others same _ inductionHypothesis =>
      obtain ⟨place, octets⟩ := file
      obtain ⟨_, otherOctets⟩ := otherFile
      obtain ⟨rfl, same⟩ := same
      simp only [List.lookup_cons]
      cases location == place with
      | true => exact .some same
      | false => exact inductionHypothesis

/-- They lie below the same locations. -/
theorem any_below_eq (location : Location) :
    (tree.files.any fun file => location.isSuffixOf file.1) =
      other.files.any fun file => location.isSuffixOf file.1 := by
  unfold Tree.Alike at alike
  generalize tree.files = files at alike ⊢
  generalize other.files = others at alike ⊢
  induction alike with
  | nil => rfl
  | cons same _ inductionHypothesis =>
      simp only [List.any_cons, same.1, inductionHypothesis]

/-- So are files and directories. -/
theorem entry? (location : Location) :
    Option.Rel Entry.Alike (tree.entry? location) (other.entry? location) := by
  have found := alike.lookup location
  unfold Tree.entry?
  rw [alike.any_below_eq location]
  generalize tree.files.lookup location = file, other.files.lookup location = otherFile at found
  cases found with
  | some same => exact .some (.file same)
  | none =>
      dsimp only
      split
      next => exact .some .directory
      next => exact .none

theorem isSome_entry?_eq (location : Location) :
    (tree.entry? location).isSome = (other.entry? location).isSome := by
  have found := alike.entry? location
  generalize tree.entry? location = entry, other.entry? location = otherEntry at found
  cases found <;> rfl

theorem isDirectory_eq (location : Location) :
    tree.isDirectory location = other.isDirectory location := by
  have found := alike.entry? location
  unfold isDirectory
  generalize tree.entry? location = entry, other.entry? location = otherEntry at found
  cases found with
  | none => rfl
  | some same => cases same <;> rfl

/-- Names lead to the same locations. -/
theorem childOf_eq (location : Location) (name : String) :
    tree.childOf location name = other.childOf location name := by
  unfold childOf
  rw [alike.isDirectory_eq]

theorem enter_eq (location : Location) (name : String) :
    tree.enter location name = other.enter location name := by
  unfold enter
  simp only [alike.childOf_eq, alike.isSome_entry?_eq]

theorem walk_eq (location : Location) (names : List String) :
    tree.walk location names = other.walk location names := by
  induction names generalizing location with
  | nil => rfl
  | cons name names inductionHypothesis =>
      simp only [walk, alike.enter_eq, inductionHypothesis]

/-- A file is written at the same location, or cannot be written for the same reason. -/
theorem target_eq (text : String) : tree.target text = other.target text := by
  unfold target
  simp only [alike.walk_eq, alike.isDirectory_eq, alike.childOf_eq]

/-- What is read has the same lines, or cannot be read for the same reason. -/
theorem read_cases (text : String) :
    (∃ problem, tree.read text = .error problem ∧ other.read text = .error problem) ∨
      ∃ octets others, tree.read text = .ok octets ∧ other.read text = .ok others ∧
        SameLines octets others := by
  unfold read
  simp only [alike.walk_eq]
  cases pathOf text with
  | error problem => exact .inl ⟨problem, rfl, rfl⟩
  | ok path =>
      cases walked : other.walk path.start path.names with
      | error problem =>
          simp only [bind, Except.bind, walked]
          exact .inl ⟨problem, rfl, rfl⟩
      | ok location =>
          have found := alike.entry? location
          simp only [bind, Except.bind, walked]
          generalize tree.entry? location = entry, other.entry? location = otherEntry at found
          cases found with
          | none => exact .inl ⟨_, rfl, rfl⟩
          | some same =>
              cases same with
              | directory => exact .inl ⟨_, rfl, rfl⟩
              | file same =>
                  cases path.endsWithSlash with
                  | true => exact .inl ⟨_, rfl, rfl⟩
                  | false => exact .inr ⟨_, _, rfl, rfl, same⟩

/-- The same file may be put into both. -/
theorem put (location : Location) (octets : List UInt8) :
    (tree.put location octets).Alike (other.put location octets) := by
  refine .cons ⟨rfl, .refl octets⟩ (List.rel_filter (fun {file otherFile} same => ?_) alike)
  exact iff_of_eq (congrArg (fun place => (place != location) = true) same.1)

end Alike

end Tree

end Files

namespace CommandLine

open Files

/-- The source of a file has the texts of its lines for lines. -/
theorem lines_sourceOf {octets : List UInt8} {pieces : List (List UInt8)}
    (cut : LineCut octets pieces) : lines (sourceOf octets) = pieces.map Utf8.decode :=
  cut.lines_eq

/-- Files with the same lines have the same source. -/
theorem sourceOf_eq {octets others : List UInt8} (same : SameLines octets others) :
    sourceOf octets = sourceOf others := by
  obtain ⟨pieces, cut, otherCut⟩ := same
  rw [← intercalate_lines (sourceOf octets), ← intercalate_lines (sourceOf others),
    lines_sourceOf cut, lines_sourceOf otherCut]

/-- An action that cannot tell trees apart that are alike. -/
def Indifferent {α : Type} (action : StateM Tree α) : Prop :=
  ∀ tree other : Tree, tree.Alike other →
    (action.run tree).1 = (action.run other).1 ∧
      (action.run tree).2.Alike (action.run other).2

theorem indifferent_pure {α : Type} (value : α) : Indifferent (pure value) :=
  fun _ _ alike => ⟨rfl, alike⟩

/-- Indifferent actions may follow one another. -/
theorem Indifferent.bind {α β : Type} {action : StateM Tree α} {next : α → StateM Tree β}
    (first : Indifferent action) (second : ∀ value, Indifferent (next value)) :
    Indifferent (action >>= next) := by
  intro tree other alike
  have ran (start : Tree) : (action >>= next).run start =
      (next (action.run start).1).run (action.run start).2 := rfl
  obtain ⟨same, alikeThen⟩ := first tree other alike
  rw [ran, ran, same]
  exact second (action.run other).1 _ _ alikeThen

theorem indifferent_write (path : String) (octets : List UInt8) :
    Indifferent (Tree.access.write path octets) := by
  intro tree other alike
  cases target : other.target path with
  | error problem =>
      rw [access_write_error target, access_write_error ((alike.target_eq path).trans target)]
      exact ⟨rfl, alike⟩
  | ok location =>
      rw [access_write target, access_write ((alike.target_eq path).trans target)]
      exact ⟨rfl, alike.put location octets⟩

theorem indifferent_writeDump (limits : Limits) (invocation : Invocation) (result : Result)
    (before : List Char) : Indifferent (writeDump Tree.access limits invocation result before) := by
  unfold writeDump
  split
  · exact indifferent_pure _
  · exact indifferent_pure _
  · split
    · exact indifferent_pure _
    · refine (indifferent_write _ _).bind fun written => ?_
      split <;> exact indifferent_pure _

theorem indifferent_checkSource (grammars : Grammars) (invocation : Invocation)
    (source : List Char) : Indifferent (checkSource Tree.access grammars invocation source) := by
  unfold checkSource
  dsimp only
  split
  · exact indifferent_pure _
  · refine (indifferent_writeDump _ _ _ _).bind fun dumped => ?_
    cases dumped <;> exact indifferent_pure _

/-- Calls on trees that are alike print the same and end in the same way, and leave trees behind
that are alike. -/
theorem indifferent_run (grammars : Grammars) (arguments : List String) :
    Indifferent (run Tree.access grammars arguments) := by
  intro tree other alike
  cases parsed : parse arguments with
  | error problem =>
      simp only [run, parsed]
      exact indifferent_pure _ tree other alike
  | ok request =>
      cases request with
      | help =>
          simp only [run, parsed]
          exact indifferent_pure _ tree other alike
      | check invocation =>
          cases fits : isPath invocation.file with
          | false =>
              simp only [run, parsed, fits]
              exact indifferent_pure _ tree other alike
          | true =>
              rcases alike.read_cases invocation.file with
                ⟨problem, unreadable, otherUnreadable⟩ |
                ⟨octets, others, readable, otherReadable, same⟩
              · have found (start : Tree) : (Tree.access.read invocation.file).run start =
                    (start.read invocation.file, start) := rfl
                simp only [run, parsed, fits, Bool.not_true, Bool.false_eq_true, ↓reduceIte,
                  StateT.run_bind, found, unreadable, otherUnreadable]
                exact ⟨rfl, alike⟩
              · rw [run_of_read parsed fits readable, run_of_read parsed fits otherReadable,
                  sourceOf_eq same]
                exact indifferent_checkSource grammars invocation _ tree other alike

/-- Texts of lines are found line by line. -/
theorem map_decode_eq {pieces : List (List UInt8)} {texts : List (List Char)}
    (decoded : List.Forall₂ Utf8.Decoded pieces texts) : pieces.map Utf8.decode = texts := by
  induction decoded with
  | nil => rfl
  | cons first _ inductionHypothesis =>
      rw [List.map_cons, Utf8.decoded_iff.mp first, inductionHypothesis]

/-- A file is read line by line, whatever its octets are. There is one way to cut octets into lines,
and one text that they are. The octets of a text are that text, and wherever those of a character
stand, it is read, and what stands around it is read as if it stood alone. The source of a file is
made of the texts of its lines with line feeds between them, so it has as many lines as the file,
and no carriage return. A call checks and reports this source. It answers the same for trees with
files that differ in nothing but how their lines end. -/
theorem lines_read_apart :
    (∀ octets, ∃! pieces, LineCut octets pieces) ∧
    (∀ octets, ∃! text, Utf8.Decoded octets text) ∧
    (∀ text, Utf8.Decoded (Utf8.encode text) text) ∧
    (∀ before character after text,
      Utf8.Decoded (before ++ (String.utf8EncodeChar character ++ after)) text →
        ∃ front behind, text = front ++ character :: behind ∧ Utf8.Decoded before front ∧
          Utf8.Decoded after behind) ∧
    (∀ octets pieces texts, LineCut octets pieces → List.Forall₂ Utf8.Decoded pieces texts →
      sourceOf octets = ['\n'].intercalate texts ∧ lines (sourceOf octets) = texts ∧
        (lines (sourceOf octets)).length = pieces.length ∧ '\r' ∉ sourceOf octets) ∧
    (∀ (grammars : Grammars) (tree : Tree) (arguments : List String) (invocation : Invocation)
        (octets : List UInt8), Reads tree arguments invocation octets →
      (run Tree.access grammars arguments).run tree =
        (checkSource Tree.access grammars invocation (sourceOf octets)).run tree) ∧
    (∀ (grammars : Grammars) (arguments : List String) (tree other : Tree), tree.Alike other →
      let ran := (run Tree.access grammars arguments).run tree
      let otherRan := (run Tree.access grammars arguments).run other
      ran.1 = otherRan.1 ∧ ran.2.Alike otherRan.2) := by
  refine ⟨fun octets => ?_, fun octets => ?_, fun text => ?_,
    fun before character after text read => ?_, fun octets pieces texts cut decoded => ?_,
    fun grammars tree arguments invocation octets reads => ?_, indifferent_run⟩
  · exact ⟨octetLines octets, lineCut_octetLines octets,
      fun _ cut => (lineCut_iff.mp cut).symm⟩
  · exact ⟨Utf8.decode octets, Utf8.decoded_iff.mpr rfl,
      fun _ decoded => (Utf8.decoded_iff.mp decoded).symm⟩
  · exact Utf8.decoded_iff.mpr (Utf8.decode_encode text)
  · have whole := (Utf8.decoded_iff.mp read).symm
    rw [Utf8.decode_encodeChar] at whole
    exact ⟨_, _, whole, Utf8.decoded_iff.mpr rfl, Utf8.decoded_iff.mpr rfl⟩
  · have cut_eq : lines (sourceOf octets) = texts :=
      (lines_sourceOf cut).trans (map_decode_eq decoded)
    refine ⟨?_, cut_eq, ?_, return_not_mem_unifyLineEnds _⟩
    · rw [← cut_eq, intercalate_lines]
    · rw [cut_eq, decoded.length_eq]
  · exact run_of_read reads.parsed reads.isPath reads.readable grammars

/-- A sequence that a line end cuts off spoils neither the line end nor the next line. The file
reads the same whether this line end has a carriage return or not. -/
theorem cut_sequence_keeps_lines :
    let tree : Tree := ⟨[(["a.js"], [0xE2, 0x82, 13, 10, 40])]⟩
    let other : Tree := ⟨[(["a.js"], [0xE2, 0x82, 10, 40])]⟩
    lines (sourceOf [0xE2, 0x82, 13, 10, 40]) = [['\ufffd'], ['(']] ∧
    (run Tree.access (.standard .usual) ["a.js"]).run tree =
      (checkSource Tree.access (.standard .usual)
        ⟨"a.js", .text Dialect.modern.name, false, false, none, false⟩
        (sourceOf [0xE2, 0x82, 13, 10, 40])).run tree ∧
    ((run Tree.access (.standard .usual) ["a.js"]).run tree).1 =
      ((run Tree.access (.standard .usual) ["a.js"]).run other).1 := by
  intro tree other
  obtain ⟨-, -, -, -, lines_eq, checks, alike⟩ := lines_read_apart
  have cut : LineCut [0xE2, 0x82, 13, 10, 40] [[0xE2, 0x82], [40]] :=
    lineCut_iff.mpr (by decide)
  have otherCut : LineCut [0xE2, 0x82, 10, 40] [[0xE2, 0x82], [40]] :=
    lineCut_iff.mpr (by decide)
  have decoded : List.Forall₂ Utf8.Decoded [[0xE2, 0x82], [40]] [['\ufffd'], ['(']] :=
    .cons (Utf8.decoded_iff.mpr (by decide)) (.cons (Utf8.decoded_iff.mpr (by decide)) .nil)
  have classified : Word.classifyAll ["a.js"] = .ok [.operand "a.js"] := rfl
  have reads : Reads tree ["a.js"]
      ⟨"a.js", .text Dialect.modern.name, false, false, none, false⟩ [0xE2, 0x82, 13, 10, 40] := {
    parsed := by simp [parse, classified, scan, Given.request, bind, Except.bind]
    isPath := rfl
    readable := rfl }
  refine ⟨(lines_eq _ _ _ cut decoded).2.1, checks (.standard .usual) tree ["a.js"] _ _ reads, ?_⟩
  exact (alike (.standard .usual) ["a.js"] tree other (.cons ⟨rfl, _, cut, otherCut⟩ .nil)).1

end CommandLine

end ScriptCheck
