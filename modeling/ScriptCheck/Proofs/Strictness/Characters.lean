import ScriptCheck.Modern.Stepping
import ScriptCheck.Proofs.Strictness.Basic

/-!
# Characters and tokens in step

The readers of characters do not see how strict a run is.
-/

namespace ScriptCheck.Modern

open ScriptCheck.Grammar

-- Readers are searched through as a whole, with all of their branches.
set_option synthInstance.maxSize 4096

variable {α β : Type}

namespace InStep

instance getCursor : InStep (Grammar.getCursor : Parse Cursor) :=
  get_bind (fun _ => rfl) fun _ => inferInstance

instance setCursor {cursor : Cursor} : InStep (Grammar.setCursor cursor : Parse Unit) :=
  change _ (fun _ => rfl) fun _ => ⟨rfl, rfl⟩

instance getBraces : InStep (Grammar.getBraces : Parse (List Brace)) :=
  get_bind (fun _ => rfl) fun _ => inferInstance

instance openBrace {brace : Brace} : InStep (Grammar.openBrace brace : Parse Unit) :=
  getBraces.andThen fun _ => change _ (fun _ => rfl) fun _ => ⟨rfl, rfl⟩

instance closeBrace : InStep (Grammar.closeBrace : Parse Unit) :=
  getBraces.andThen fun _ => change _ (fun _ => rfl) fun _ => ⟨rfl, rfl⟩

instance atEnd : InStep (Grammar.atEnd : Parse Bool) :=
  get_bind (fun _ => rfl) fun _ => inferInstance

instance peekAt {distance : Nat} : InStep (Grammar.peekAt distance : Parse Char) :=
  get_bind (fun _ => rfl) fun _ => getCursor.andThen fun _ => by split <;> infer_instance

instance peek : InStep (Grammar.peek : Parse Char) := peekAt

instance slice {start stop : Nat} : InStep (Grammar.slice start stop : Parse (List Char)) :=
  get_bind (fun _ => rfl) fun _ => inferInstance

instance moveTo {index : Nat} : InStep (Grammar.moveTo index : Parse Unit) := by
  unfold Grammar.moveTo
  infer_instance

instance advance {distance : Nat} : InStep (Grammar.advance distance : Parse Unit) := by
  unfold Grammar.advance
  infer_instance

instance take : InStep (Grammar.take : Parse Char) := by
  unfold Grammar.take
  infer_instance

instance endLine {lineEnd : Char} : InStep (Grammar.endLine lineEnd : Parse Unit) := by
  unfold Grammar.endLine
  infer_instance

instance takeWhile {condition : Char → Bool} :
    InStep (Grammar.takeWhile condition : Parse (List Char)) := by
  unfold Grammar.takeWhile
  infer_instance

instance skipLine : InStep (Grammar.skipLine : Parse Unit) := by
  unfold Grammar.skipLine
  infer_instance

instance skipBlockComment {unclosed : Parse Unit} [InStep unclosed] :
    InStep (Grammar.skipBlockComment unclosed) := by
  unfold Grammar.skipBlockComment
  infer_instance

instance skipGap {markup : Bool} {unclosed : Parse Unit} [InStep unclosed] :
    InStep (Grammar.skipGap markup unclosed) := by
  unfold Grammar.skipGap
  infer_instance

instance tokenFrom {kind : TokenKind} {value : String} {start : Nat} :
    InStep (Grammar.tokenFrom kind value start : Parse Token) := by
  unfold Grammar.tokenFrom
  infer_instance

instance wordFrom {kind : TokenKind} {codes : List Nat} {start : Nat} :
    InStep (Grammar.wordFrom kind codes start : Parse Token) := by
  unfold Grammar.wordFrom
  infer_instance

instance hexEscape {count value : Nat} :
    InStep (Grammar.hexEscape count value : Parse (Option Nat)) := by
  induction count generalizing value with
  | zero => exact pure _
  | succ count inductionHypothesis =>
      refine atEnd.andThen fun _ => either inferInstance (peek.andThen fun _ => ?_)
      split <;> infer_instance

instance bracedEscape : InStep (Grammar.bracedEscape : Parse Nat) := by
  refine peek.andThen fun _ => optional inferInstance
    (andThen (loop (fun _ => ?_) 0) fun ⟨value, closed⟩ => inferInstance)
  refine atEnd.andThen fun _ => either inferInstance (take.andThen fun _ => ?_)
  split <;> infer_instance

instance octalEscape {first : Char} :
    InStep (Grammar.octalEscape first : Parse (Nat × Bool)) := by
  unfold Grammar.octalEscape
  infer_instance

instance endNumeral {refused : Char → Bool} : InStep (Grammar.endNumeral refused : Parse Unit) := by
  unfold Grammar.endNumeral
  infer_instance

instance readRadix {base start : Nat} {isDigit refused : Char → Bool} :
    InStep (Grammar.readRadix base isDigit refused start : Parse Token) := by
  unfold Grammar.readRadix
  infer_instance

instance readDecimal {startsName : Char → Bool} {start : Nat} :
    InStep (Grammar.readDecimal startsName start : Parse Token) := by
  unfold Grammar.readDecimal
  infer_instance

instance readNumber {startsName : Char → Bool} :
    InStep (Grammar.readNumber startsName : Parse Token) := by
  refine getCursor.andThen fun _ => peekAt.andThen fun _ => peek.andThen fun _ =>
    either (either inferInstance (either inferInstance (either inferInstance ?_))) inferInstance
  exact get_bind (fun _ => rfl) fun _ => inferInstance

instance readText {escape : Parse (List Nat × Bool)} {unclosed : Nat → Parse Unit}
    [InStep escape] [∀ start, InStep (unclosed start)] :
    InStep (Grammar.readText escape unclosed) := by
  unfold Grammar.readText
  infer_instance

instance readTemplate {escape : Parse Unit} [InStep escape] :
    InStep (Grammar.readTemplate escape) := by
  unfold Grammar.readTemplate
  infer_instance

instance readPatternBody : InStep (Grammar.readPatternBody : Parse (List Char)) := by
  unfold Grammar.readPatternBody
  infer_instance

instance fourDigitEscape {fits : Char → Bool} :
    InStep (Grammar.fourDigitEscape fits : Parse Nat) := by
  refine hexEscape.andThen fun code => ?_
  cases code <;> infer_instance

instance readEscaped {rules : NameRules Failure State} [∀ fits, InStep (rules.escape fits)] :
    InStep rules.readEscaped := by
  unfold NameRules.readEscaped
  infer_instance

instance readName {rules : NameRules Failure State} [∀ fits, InStep (rules.escape fits)] :
    InStep rules.read := by
  unfold NameRules.read
  infer_instance

instance readSign {longSigns : List String} :
    InStep (Grammar.readSign longSigns : Parse Token) := by
  refine getCursor.andThen fun _ => slice.andThen fun _ => ?_
  split <;> infer_instance

end InStep

/-- A problem is logged, or ends the run. -/
instance inStep_tolerate {problem : Problem} : InStep (tolerate problem) where
  agree state tolerant := by
    have ran : tolerate problem state =
        .ok () { state with tolerated := problem :: state.tolerated } := by
      show (if state.tolerant = true then _ else _ : Parse Unit) state = _
      rw [if_pos tolerant]
      rfl
    rw [ran]
    exact .logged tolerant (Nat.lt_succ_self _)

instance inStep_tolerateAtCursor {complaint : Complaint} : InStep (tolerateAtCursor complaint) :=
  InStep.get_bind (fun _ => rfl) fun _ => inferInstance

instance inStep_setContext {change : Context → Context} : InStep (setContext change) :=
  .change _ (fun _ => rfl) fun _ => ⟨rfl, rfl⟩

instance inStep_getContext : InStep getContext :=
  .get_bind (fun _ => rfl) fun _ => inferInstance

instance inStep_getLimits : InStep getLimits :=
  .get_bind (fun _ => rfl) fun _ => inferInstance

instance inStep_nameEscape {fits : Char → Bool} : InStep (nameEscape fits) := by
  unfold nameEscape
  infer_instance

instance {fits : Char → Bool} : InStep (names.escape fits) := inStep_nameEscape

instance inStep_readWord : InStep readWord := by
  unfold readWord
  infer_instance

instance inStep_textEscape : InStep textEscape := by
  refine InStep.take.andThen fun letter => .either inferInstance (.either ?_ (.either ?_ ?_))
  · refine InStep.peek.andThen fun _ => .either inferInstance
      (InStep.hexEscape.andThen fun code => ?_)
    cases code <;> infer_instance
  · refine InStep.hexEscape.andThen fun code => ?_
    cases code <;> infer_instance
  · split <;> infer_instance

instance inStep_failUnclosed {start : Nat} : InStep (failUnclosed start) := by
  unfold failUnclosed
  infer_instance

instance inStep_templateEscape : InStep templateEscape := by
  unfold templateEscape
  infer_instance

instance inStep_skipToToken : InStep skipToToken :=
  .get_bind (fun _ => rfl) fun _ => inferInstance

instance inStep_readToken : InStep readToken := by
  unfold readToken
  infer_instance

instance inStep_readPatternFlags : InStep readPatternFlags := by
  unfold readPatternFlags
  infer_instance

instance inStep_tolerateTimes {complaint : Complaint} {count : Nat} :
    InStep (tolerateTimes complaint count) := by
  induction count with
  | zero => exact .pure ()
  | succ count inductionHypothesis =>
      unfold tolerateTimes
      infer_instance

instance inStep_checkPattern {body : List Char} : InStep (checkPattern body) := by
  unfold checkPattern
  infer_instance

instance inStep_readPattern : InStep readPattern := by
  unfold readPattern
  infer_instance

end ScriptCheck.Modern
