import ScriptCheck.Proofs.Block
import ScriptCheck.Proofs.Text.Placement

/-!
# The place of a failure

A run of the classic grammar that fails leaves behind what may be an offset in three places, and may
leave anything in them. `Whereabouts.record_eq` says that all the same there is a record: that of
the offset within the source that is nearest to the best known one. A report shows the line with
this offset and puts its caret under it.
-/

namespace ScriptCheck

namespace Whereabouts

/-- Where the reader left a number or nothing at all, the best known offset is a number. Offsets of
errors and tokens count only if they are numbers. -/
theorem exists_offset {remains : Whereabouts}
    (index : remains.index.integer?.isSome ∨ remains.index.isEmpty) :
    ∃ offset, remains.offset.integer? = some offset := by
  unfold offset
  split
  next isNumber => exact Option.isSome_iff_exists.1 isNumber
  next =>
    split
    next start found =>
      unfold lookaheadStart? at found
      split at found
      · split at found
        · split at found
          next isNumber =>
            cases found
            exact Option.isSome_iff_exists.1 isNumber
          next => cases found
        · cases found
      · cases found
    next =>
      split
      next => exact ⟨0, rfl⟩
      next notEmpty =>
        have isNumber := index.resolve_right notEmpty
        exact Option.isSome_iff_exists.1 isNumber

/-- The place of an offset that is a number, be it a truth value. -/
theorem place_of_integer {offset : Value} {number : Int} (isNumber : offset.integer? = some number)
    (source : List Char) : place source offset = .ok (Text.position source number) := by
  cases offset with
  | bool truth =>
      cases isNumber
      rfl
  | int found =>
      cases isNumber
      rfl
  | _ => cases isNumber

/-- The place of an offset makes a record, since both of its numbers are positive. -/
theorem record_eq {limits : Limits} {remains : Whereabouts} {number : Int}
    (isNumber : remains.offset.integer? = some number) (source : List Char) (raised : Raised) :
    remains.record limits source raised =
      .ok (.ofPlace (Text.position source number).line (Text.position source number).column
        raised.headline) := by
  have stands := Text.position_standsAt_clamp source number
  unfold record
  rw [place_of_integer isNumber]
  exact Record.load_mapping (Int.ofNat_le.2 stands.line_pos) (Int.ofNat_le.2 stands.column_pos)
    raised.headline

end Whereabouts

/-- Where the classic grammar fails, the result is a failure with the record of the best known
offset, whatever else the run left behind. -/
theorem ClassicOutcome.result_of_failure {limits : Limits} {outcome : ClassicOutcome}
    {raised : Raised} {number : Int}
    (fails : outcome.ending = .refused raised ∨ outcome.ending = .broken raised)
    (isNumber : (outcome.remains .null).offset.integer? = some number) (source : List Char) :
    (outcome.result limits source).outcome =
      .ok (.failure (.ofPlace (Text.position source number).line
        (Text.position source number).column raised.headline)) := by
  rcases fails with ending | ending <;>
    simp [result, ending, Whereabouts.record_eq isNumber, Except.map]

/-- A report on a place of the source shows its line with a caret under its column, and warns of
nothing. The source must not be longer than a count can be. -/
theorem Report.make_ofPlace {source : List Char} {offset : Nat} {place : Text.Place}
    (stands : Text.StandsAt source offset place) (within : offset ≤ source.length)
    (countable : source.length < 9223372036854775808) (limits : Limits)
    (filepath message : String) :
    make limits filepath source [.ofPlace place.line place.column message] =
      ⟨[.block ([Text.lineAt source place.line,
        List.replicate (place.column - 1) ' ' ++ ['^'],
        message.toList,
        locator filepath place.line place.column,
        rule].flatMap fun line => line ++ ['\n'])], none⟩ := by
  let diagnostic : Diagnostic :=
    ⟨place.line, place.column, message, Int.ofNat_le.2 stands.line_pos,
      Int.ofNat_le.2 stands.column_pos⟩
  have column_le := stands.column_le_offset
  have line_small := stands.line_le_length
  have fits : diagnostic.Fits limits := {
    column := by
      simp only [fitsIndex, diagnostic, Bool.and_eq_true, decide_eq_true_eq]
      have column_pos := stands.column_pos
      omega
    line := Limits.writes_of_small (by simp only [diagnostic]; omega) }
  have report := ofLines_of_fits filepath (Text.lines source) (List.forall_mem_singleton.2 fits)
  have shown : shownLine (Text.lines source) place.line = Text.lineAt source place.line := by
    rw [shownLine, Text.lineAt]
    congr 2
    omega
  have spaces : ((place.column : Int) - 1).toNat = place.column - 1 := by omega
  have line_le : ¬ ((Text.lines source).length : Int) < place.line := by
    have line_le := stands.line_le
    omega
  simpa [make, diagnostic, Diagnostic.record, Diagnostic.items, Diagnostic.block,
    Diagnostic.blockLines, Diagnostic.lowerLines, warnings, shown, spaces, line_le] using report

/-- However a run of the classic grammar fails, and whatever it leaves behind for the last error and
the next token, a check ends with one record. The record stands at the best known offset, or at the
end of the source that is nearest to it, and it can be shown: the line is that of the offset, the
caret stands under what stands there, and no line is missed. -/
theorem classic_failure_reported (grammars : Grammars) (source : List Char) (setting : Setting)
    (raised : Raised)
    (fails : (grammars.classic source).ending = .refused raised ∨
      (grammars.classic source).ending = .broken raised)
    (index : (grammars.classic source).index.integer?.isSome ∨
      (grammars.classic source).index.isEmpty) :
    ∃ (number : Int) (offset : Nat) (place : Text.Place) (result : Result),
      ((grammars.classic source).remains .null).offset.integer? = some number ∧
      offset = min number.toNat source.length ∧
      (grammars.check source setting Dialect.classic.name).outcome = .ok result ∧
      result = .failure
        (.ofPlace place.line place.column (raised.className ++ ": " ++ raised.text)) ∧
      Text.StandsAt source offset place ∧
      (Text.lineAt source place.line)[place.column - 1]? =
        source[offset]?.filter (· ≠ '\n') ∧
      ((∀ character, source[offset]? = some character → character = '\n') →
        place.column = (Text.lineAt source place.line).length + 1) ∧
      Report.verdict result = .failure ∧
      (source.length < 9223372036854775808 → ∀ filepath,
        Report.make grammars.limits filepath source result.records =
          ⟨[.block ([Text.lineAt source place.line,
            List.replicate (place.column - 1) ' ' ++ ['^'],
            (raised.className ++ ": " ++ raised.text).toList,
            Report.locator filepath place.line place.column,
            Report.rule].flatMap fun line => line ++ ['\n'])], none⟩) := by
  obtain ⟨number, isNumber⟩ :
      ∃ number, ((grammars.classic source).remains .null).offset.integer? = some number :=
    Whereabouts.exists_offset index
  have within := Text.clamp_le source number
  have stands := Text.position_standsAt_clamp source number
  refine ⟨number, Text.clamp source number, Text.position source number, _, isNumber, rfl, ?_, rfl,
    stands, ?_, ?_, rfl, fun countable filepath => ?_⟩
  · rw [Grammars.check_name]
    exact ClassicOutcome.result_of_failure fails isNumber source
  · simpa only [Text.position_clamp] using Text.lineAt_position within
  · simpa only [Text.position_clamp] using Text.column_position within
  · exact Report.make_ofPlace stands within countable grammars.limits filepath _

/-- A brace that closes nothing breaks the classic grammar, on the second line of this source. -/
theorem unopened_brace_reported :
    ((Grammars.standard .usual).classic ['\n', '\x7d']).ending =
      .broken (Raised.ofArgument "IndexError" "list index out of range" []) ∧
    ((Grammars.standard .usual).classic ['\n', '\x7d']).index.integer?.isSome ∧
    ∃ result,
      ((Grammars.standard .usual).check ['\n', '\x7d'] {} Dialect.classic.name).outcome =
        .ok result ∧
      Report.verdict result = .failure := by
  have broken : ((Grammars.standard .usual).classic ['\n', '\x7d']).ending =
      .broken (Raised.ofArgument "IndexError" "list index out of range" []) := rfl
  have index : ((Grammars.standard .usual).classic ['\n', '\x7d']).index.integer?.isSome := rfl
  obtain ⟨_, _, _, result, _, _, checked, _, _, _, _, verdict, _⟩ :=
    classic_failure_reported (.standard .usual) ['\n', '\x7d'] {} _ (.inr broken) (.inl index)
  exact ⟨broken, index, result, checked, verdict⟩

end ScriptCheck
