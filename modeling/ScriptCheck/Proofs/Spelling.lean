import Mathlib.Data.List.Forall2
import Mathlib.Data.List.Infix
import ScriptCheck.CommandLine.Arguments

/-!
# Spelling of options

An argument means the same wherever it stands in front of a separator: `Means` says what. A long
name may be cut short, since no two of them start with the same letter, and may carry a value behind
an equals sign: `means_longName` and `means_attached`.
-/

namespace ScriptCheck.CommandLine

/-- What an argument is, told apart from the separator. -/
def Means (argument : String) (word : Word) : Prop :=
  argument ≠ Word.separatorText ∧ Word.classify argument = .ok word

/-- Arguments are classified one by one up to a separator. -/
theorem classifyAll_append {arguments rest : List String} {words others : List Word}
    (each : List.Forall₂ Means arguments words) (behind : Word.classifyAll rest = .ok others) :
    Word.classifyAll (arguments ++ rest) = .ok (words ++ others) := by
  induction each with
  | nil => exact behind
  | cons means _ inductionHypothesis =>
      rw [List.cons_append, Word.classifyAll, if_neg means.1, means.2, inductionHypothesis]
      rfl

/-- A text that does not start with a dash is an operand. -/
theorem means_operand {text : String} (noDash : text.toList.head? ≠ some '-') :
    Means text (.operand text) := by
  constructor
  · rintro rfl
    exact noDash rfl
  · unfold Word.classify
    split
    next starts => exact absurd (by rw [starts]; rfl) noDash
    next => rfl

/-- A long name of an option, in full or cut short behind a letter at least. -/
def IsLongName (name : OptionName) (spelling : String) : Prop :=
  2 < spelling.length ∧
    ∃ full, (full, name) ∈ OptionName.spellings ∧ spelling.toList <+: full.toList

/-- A check of all long names and what may be left of them. -/
theorem forall_longName (property : List Char → OptionName → Prop)
    (each : ∀ entry ∈ OptionName.spellings, ∀ spelling ∈ entry.1.toList.inits,
      2 < spelling.length → property spelling entry.2)
    {name : OptionName} {spelling : String} (isName : IsLongName name spelling) :
    property spelling.toList name := by
  obtain ⟨long, full, listed, starts⟩ := isName
  exact each (full, name) listed _ ((List.mem_inits _ _).mpr starts) long

/-- A long name means its option. -/
theorem means_longName {name : OptionName} {spelling : String}
    (isName : IsLongName name spelling) : Means spelling (.long name none) := by
  have means := forall_longName (fun spelling name =>
    String.ofList spelling ≠ Word.separatorText ∧
      Word.classify (String.ofList spelling) = .ok (.long name none)) (by decide +kernel) isName
  rwa [String.ofList_toList] at means

/-- A text is cut at its first equals sign. -/
theorem cutValue_append {spelling : List Char} (noEquals : '=' ∉ spelling) (value : List Char) :
    Word.cutValue (spelling ++ '=' :: value) =
      (String.ofList spelling, some (String.ofList value)) := by
  have passes : ∀ character ∈ spelling, (character != '=') = true :=
    fun character mem => bne_iff_ne.mpr (ne_of_mem_of_not_mem mem noEquals)
  simp [Word.cutValue, List.span_eq_takeWhile_dropWhile, List.takeWhile_append_of_pos passes,
    List.dropWhile_append_of_pos passes]

/-- No spelling has an equals sign, so an argument with one has to be cut. -/
theorem lookup_equals {argument : String} (hasEquals : '=' ∈ argument.toList) :
    OptionName.spellings.lookup argument = none := by
  have noEquals : ∀ entry ∈ OptionName.spellings, '=' ∉ entry.1.toList := by decide
  refine List.lookup_eq_none_iff.mpr fun entry listed => bne_iff_ne.mpr fun same => ?_
  exact noEquals entry listed (same ▸ hasEquals)

/-- What the spellings tell of a long name: it stands among them, or one of them starts with it. -/
theorem longName_cases {name : OptionName} {spelling : String}
    (isName : IsLongName name spelling) :
    OptionName.spellings.lookup spelling = some name ∨
      OptionName.spellings.lookup spelling = none ∧ ∃ full,
        OptionName.spellings.filter (fun entry => spelling.toList.isPrefixOf entry.1.toList) =
          [(full, name)] := by
  have found := forall_longName (fun spelling name =>
    OptionName.spellings.lookup (String.ofList spelling) = some name ∨
      OptionName.spellings.lookup (String.ofList spelling) = none ∧
      (OptionName.spellings.filter fun entry => spelling.isPrefixOf entry.1.toList).map (·.2) =
        [name]) (by decide +kernel) isName
  rw [String.ofList_toList] at found
  refine found.imp_right fun ⟨missing, named⟩ => ⟨missing, ?_⟩
  obtain ⟨⟨full, other⟩, only, rfl⟩ := List.map_eq_singleton_iff.mp named
  exact ⟨full, only⟩

/-- What is attached to a long name behind an equals sign is a value of its option. -/
theorem means_attached {name : OptionName} {spelling : String}
    (isName : IsLongName name spelling) (value : String) :
    Means (spelling ++ "=" ++ value) (.long name (some value)) := by
  have shape := forall_longName (fun spelling _ =>
    spelling.take 2 = ['-', '-'] ∧ '=' ∉ spelling) (by decide +kernel) isName
  obtain ⟨dashes, noEquals⟩ := shape
  obtain ⟨rest, starts⟩ : ∃ rest, spelling.toList = '-' :: '-' :: rest :=
    ⟨_, (List.take_append_drop 2 spelling.toList).symm.trans (by rw [dashes]; rfl)⟩
  have characters : (spelling ++ "=" ++ value).toList = spelling.toList ++ '=' :: value.toList := by
    simp [String.toList_append]
  have unspelled : OptionName.spellings.lookup (spelling ++ "=" ++ value) = none :=
    lookup_equals (by rw [characters]; simp)
  have cut : Word.cutValue (spelling ++ "=" ++ value).toList = (spelling, some value) := by
    rw [characters, cutValue_append noEquals, String.ofList_toList, String.ofList_toList]
  have opens : (spelling ++ "=" ++ value).toList =
      '-' :: '-' :: (rest ++ '=' :: value.toList) := by
    rw [characters, starts]
    rfl
  constructor
  · intro same
    have separator : (spelling ++ "=" ++ value).toList = ['-', '-'] := congrArg String.toList same
    rw [opens] at separator
    simp at separator
  · unfold Word.classify
    rw [cut, unspelled]
    split
    next first others same =>
      obtain ⟨rfl, -⟩ : '-' = first ∧ _ := by simpa [opens] using same
      rcases longName_cases isName with found | ⟨missing, full, only⟩
      · have long : spelling.length ≠ 2 := Nat.ne_of_gt isName.1
        simp only [found, Word.ofSpelling, if_neg long]
      · simp only [missing, Word.classify.undivided, ↓reduceIte, Word.abbreviated, cut, only]
    next noDash => exact absurd opens (noDash _ _)

end ScriptCheck.CommandLine
