import ScriptCheck.Modern.Program
import ScriptCheck.Proofs.Places.Statement

/-!
# Places while whole programs are read
-/

namespace ScriptCheck.Modern

open ScriptCheck.Grammar

section

variable {text : Array Char} {inner : Phrases} (keep : inner.Keep text)

@[grind .] theorem keeps_moduleName : Keeps text moduleName := by
  intro state sound settled
  unfold moduleName
  grind

@[grind .] theorem keeps_failWithoutModule {α : Type} [Placeable α] :
    Keeps text (failWithoutModule : Parse α) := by
  intro state sound settled
  unfold failWithoutModule
  grind

@[grind .] theorem keeps_fromModule : Keeps text fromModule := by
  intro state sound settled
  unfold fromModule
  grind

@[grind .] theorem keeps_importSpecifier : Keeps text importSpecifier := by
  intro state sound settled
  unfold importSpecifier
  grind

@[grind ←] theorem keeps_bracedSpecifiers {specifier : Parse Unit} (keeps : Keeps text specifier) :
    Keeps text (bracedSpecifiers specifier) := by
  intro state sound settled
  unfold bracedSpecifiers
  have separated : Keeps text (do
      specifier
      if !(← isAtSign ["\x7d"]) then expect ",") := by
    intro state sound settled
    grind
  grind

@[grind .] theorem keeps_namespaceSpecifier : Keeps text namespaceSpecifier := by
  intro state sound settled
  unfold namespaceSpecifier
  grind

@[grind .] theorem keeps_moduleClause : Keeps text moduleClause := by
  intro state sound settled
  unfold moduleClause
  grind

@[grind .] theorem keeps_moduleImport : Keeps text moduleImport := by
  intro state sound settled
  unfold moduleImport
  grind

@[grind .] theorem keeps_exportSpecifier : Keeps text exportSpecifier := by
  intro state sound settled
  unfold exportSpecifier
  grind

include keep

@[grind ←] theorem keeps_exportDefault : Keeps text (exportDefault inner) := by
  intro state sound settled
  unfold exportDefault
  grind

omit keep

@[grind .] theorem keeps_exportedNames : Keeps text exportedNames := by
  intro state sound settled
  unfold exportedNames
  refine Meets.keeps_bind (keeps_expect "\x7b") sound settled fun _ state sound settled _ =>
    Meets.iterate_kept_bind sound settled trivial ?_ ?_
  · grind
  · grind

@[grind .] theorem keeps_exportList : Keeps text exportList := by
  intro state sound settled
  unfold exportList
  grind

include keep

@[grind ←] theorem keeps_moduleExport {item : Parse Unit} (keeps : Keeps text item) :
    Keeps text (moduleExport inner item) := by
  intro state sound settled
  unfold moduleExport
  grind

@[grind ←] theorem keeps_item : Keeps text (item inner) := by
  intro state sound settled
  unfold item
  grind

end

variable {text : Array Char}

theorem refusing_keep : Phrases.refusing.Keep text where
  assignment := keeps_throw trivial
  unary := keeps_throw trivial
  power := keeps_throw trivial
  member := keeps_throw trivial
  call := keeps_throw trivial
  target := fun _ => keeps_throw trivial
  statement := keeps_throw trivial
  item := keeps_throw trivial

/-- However deeply phrases nest, their readers keep states sound. -/
theorem phrases_keep (depth : Nat) : (phrases depth).Keep text := by
  induction depth with
  | zero => exact refusing_keep
  | succ depth inductionHypothesis =>
      exact {
        assignment := keeps_assignment inductionHypothesis
        unary := keeps_unary inductionHypothesis
        power := keeps_power inductionHypothesis
        member := keeps_memberExpression inductionHypothesis
        call := keeps_callExpression inductionHypothesis
        target := keeps_target inductionHypothesis
        statement := keeps_statement inductionHypothesis
        item := keeps_item inductionHypothesis }

theorem keeps_program (limits : Limits) (isModule : Bool) :
    Keeps text (program limits isModule) := by
  intro state sound settled
  have keep : (phrases limits.modernDepth).Keep text := phrases_keep limits.modernDepth
  have items : Keeps text (do
      directives (phrases limits.modernDepth)
      iterate () fun _ => do
        if ← isAtEndOfFile then return .inr ()
        (phrases limits.modernDepth).item
        return .inl ()) := by
    refine (keeps_directives keep).bind fun _ _ =>
      .iterate trivial fun _ _ state sound settled => ?_
    grind
  unfold program
  refine Meets.keeps_bind keeps_skipToken sound settled fun _ state sound settled _ =>
    Meets.modify_bind.2 ?_
  have marked : { state with lastMarker := state.cursorMarker }.Sound text :=
    { sound with lastMarker := sound.cursorMarker settled.1.2 }
  dsimp only
  split
  · exact Meets.modify_bind.2 (items _ { marked with context := sound.context } settled)
  · exact items _ marked settled

/-- A source that has characters starts with a sound state. -/
theorem initial_sound (limits : Limits) (nonempty : text.isEmpty = false) (tolerant : Bool) :
    (State.initial limits text tolerant).Sound text := by
  have line : (if text.isEmpty = true then 0 else 1) = 1 := by simp [nonempty]
  have isLine : IsLine text 1 := ⟨Nat.le_refl 1, lineNumber_pos⟩
  have marked : Placed text (⟨0, 1, 0⟩ : Marker) :=
    ⟨isLine, Nat.zero_le _, 0, rfl, Nat.zero_le _, .inl rfl⟩
  unfold State.initial
  rw [line]
  exact {
    source := rfl
    line_pos := Nat.le_refl 1
    line_le := lineNumber_pos
    lineStart := ⟨Nat.zero_le _, .inl rfl⟩
    lookahead := ⟨isLine, Nat.zero_le _⟩
    lastMarker := marked
    startMarker := marked
    context := placed_none.2 trivial
    tolerated := placed_nil.2 trivial }

/-- At the start of a text no token is read ahead. -/
theorem initial_settled (limits : Limits) (text : Array Char) (tolerant : Bool) :
    (State.initial limits text tolerant).Settled text :=
  ⟨⟨Nat.le_refl 0, Nat.zero_le _⟩, fun isSign => nomatch isSign⟩

end ScriptCheck.Modern
