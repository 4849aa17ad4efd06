import ScriptCheck.Dump

/-!
# When a dump is written

A dump is written whole, or not at all: it fails where some integer in a record has too many digits
(`Dump.text_eq`). For records of a place and a text these are the line and the column.
-/

namespace ScriptCheck

variable {limits : Limits}

/-- Whether all integers in a record are written. -/
def Record.IsDumped (limits : Limits) (record : Record) : Prop :=
  Yaml.canWrite limits record.line ∧ Yaml.canWrite limits record.column ∧
    Yaml.canWrite limits record.message

instance (record : Record) : Decidable (record.IsDumped limits) :=
  inferInstanceAs (Decidable (_ ∧ _ ∧ _))

/-- A record of a place and a text is dumped if its two numbers are written. -/
theorem Record.ofPlace_isDumped {line column : Int} {message : String} :
    (ofPlace line column message).IsDumped limits ↔ limits.Writes line ∧ limits.Writes column := by
  simp [IsDumped, ofPlace, Yaml.canWrite]

namespace Dump

/-- The fields of a dump can be written if every record can. -/
theorem canWriteFields_fields (filepath : String) (records : List Record) :
    Yaml.canWriteFields limits (fields filepath records) = true ↔
      ∀ record ∈ records, record.IsDumped limits := by
  have items : Yaml.canWriteItems limits (records.map describe) = true ↔
      ∀ record ∈ records, record.IsDumped limits := by
    induction records with
    | nil => simp [Yaml.canWriteItems]
    | cons record records inductionHypothesis =>
        simp [Yaml.canWriteItems, describe, Yaml.canWrite, Yaml.canWriteFields,
          inductionHypothesis, Record.IsDumped]
  simpa [fields, Yaml.canWriteFields, Yaml.canWrite] using items

/-- A dump is the document of the records if all of them can be written. -/
theorem text_eq (limits : Limits) (filepath : String) (records : List Record) :
    text limits filepath records =
      if ∀ record ∈ records, record.IsDumped limits then
        .ok (Yaml.documentLines (fields filepath records))
      else .error limits.digitFault := by
  unfold text Yaml.document
  simp only [canWriteFields_fields]

end Dump

end ScriptCheck
