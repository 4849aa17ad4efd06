import ScriptCheck.Proofs.Answer

/-!
# A classic grammar that is used again

A check makes a classic grammar of its own, although one object could parse any number of sources.
This module says what such an object would give away of the sources before. `Reusable` is an object
with the state that its runs share, `Reusable.turns` is what becomes of it source by source. The
offset of the last error is the only thing that no run resets (`turns_errorOffset`), so the best
known offset behind a run may belong to another source: `reuse_leaks_offset`. The library's own
grammar is such an object, and `Grammars.rerun` tells its turns.
-/

namespace ScriptCheck

/-- What an object holds: what its grammar keeps from call to call, and the offset of the last error
that was built, of which the grammar knows nothing. -/
structure Held (α : Type) where
  own : α
  errorOffset : Value := .null

/-- An error is built at an offset. -/
def Held.buildError {α : Type} (held : Held α) (offset : Value) : Held α :=
  { held with errorOffset := offset }

/-- What a run of a grammar comes to: how it ends, the offsets of the errors that it builds on its
way, in order, and what it keeps. -/
structure Pass (α : Type) where
  ending : ClassicEnd
  offsets : List Value
  own : α

/-- A turn of an object with one source, and what can be read off the object behind it. -/
structure Turn where
  ending : ClassicEnd
  offsets : List Value
  remains : Whereabouts

/-- A classic grammar as an object. A run might depend on all that the object holds. -/
structure Reusable (α : Type) where
  fresh : α
  run : List Char → Held α → Pass α
  /-- The token that is read next. -/
  lookahead : α → Value
  /-- The offset up to which the text was read. -/
  index : α → Value

/-- The offset of the last error in turns, if there was one. -/
def Turn.lastOffset (turns : List Turn) : Value :=
  (turns.flatMap Turn.offsets).getLast?.getD .null

namespace Reusable

variable {α : Type} (object : Reusable α)

/-- A new object. -/
def new : Held α := { own := object.fresh }

/-- What the object holds behind a run. Every error that was built has left its offset. -/
def after (held : Held α) (source : List Char) : Held α :=
  let pass := object.run source held
  pass.offsets.foldl Held.buildError { held with own := pass.own }

/-- What can be read off the object. -/
def remains (held : Held α) : Whereabouts where
  errorOffset := held.errorOffset
  lookahead := object.lookahead held.own
  index := object.index held.own

/-- A turn with a source. -/
def turn (held : Held α) (source : List Char) : Turn where
  ending := (object.run source held).ending
  offsets := (object.run source held).offsets
  remains := object.remains (object.after held source)

/-- The turns with sources, one after another. -/
def turns (held : Held α) : List (List Char) → List Turn
  | [] => []
  | source :: sources => object.turn held source :: turns (object.after held source) sources

/-- What a new object makes of a source. -/
def outcome (source : List Char) : ClassicOutcome :=
  let turn := object.turn object.new source
  { ending := turn.ending
    errorOffset := turn.offsets.getLast?
    lookahead := turn.remains.lookahead
    index := turn.remains.index }

/-- Every run starts afresh: it depends on nothing that the object holds. -/
def Forgets : Prop := ∀ source held other, object.run source held = object.run source other

/-- Every run leaves a number behind where it had read up to, or nothing. -/
def Counts : Prop :=
  ∀ source held, (object.index (object.run source held).own).integer?.isSome ∨
    (object.index (object.run source held).own).isEmpty

/-- What a turn of a used object has in common with that of a new one. The offsets of the last error
before the turn and behind it are given. -/
structure LikeNew (turn : Turn) (source : List Char) (before behind : Value) : Prop where
  ending_eq : turn.ending = (object.turn object.new source).ending
  offsets_eq : turn.offsets = (object.turn object.new source).offsets
  lookahead_eq : turn.remains.lookahead = (object.turn object.new source).remains.lookahead
  index_eq : turn.remains.index = (object.turn object.new source).remains.index
  errorOffset_eq : turn.remains.errorOffset = behind
  /-- The best known offset is that of the new object, unless there is an older one and no error was
  built since. -/
  offset_eq : turn.offsets ≠ [] ∨ before.integer? = none →
    turn.remains.offset = (object.turn object.new source).remains.offset
  /-- An older one is shown whatever the end of the turn is. -/
  offset_stale : turn.offsets = [] → before.integer?.isSome → turn.remains.offset = before

section Turns

/-- Of the errors that are built in a row, the last one leaves its offset. -/
theorem foldl_buildError (held : Held α) (offsets : List Value) :
    offsets.foldl Held.buildError held =
      { held with errorOffset := offsets.getLast?.getD held.errorOffset } := by
  induction offsets generalizing held with
  | nil => rfl
  | cons offset offsets inductionHypothesis =>
      rw [List.foldl_cons, inductionHypothesis]
      cases last : offsets.getLast? <;> simp [Held.buildError, List.getLast?_cons, last]

/-- A run keeps the offset of the last error that was built before, unless it builds one. -/
theorem after_errorOffset (held : Held α) (source : List Char) :
    (object.after held source).errorOffset =
      (object.turn held source).offsets.getLast?.getD held.errorOffset := by
  simp only [after, turn, foldl_buildError]

/-- It has the rest from its grammar. -/
theorem after_own (held : Held α) (source : List Char) :
    (object.after held source).own = (object.run source held).own := by
  simp only [after, foldl_buildError]

/-- The turn with a source starts with the offset of the last error in the turns before. -/
theorem turns_errorOffset {sources : List (List Char)} {k : Nat} {source : List Char}
    (isSource : sources[k]? = some source) (held : Held α) :
    ∃ before : Held α, (object.turns held sources)[k]? = some (object.turn before source) ∧
      before.errorOffset =
        (((object.turns held sources).take k).flatMap Turn.offsets).getLast?.getD
          held.errorOffset := by
  induction sources generalizing k held with
  | nil => cases isSource
  | cons first sources inductionHypothesis =>
      cases k with
      | zero =>
          cases isSource
          exact ⟨held, rfl, rfl⟩
      | succ k =>
          obtain ⟨before, isTurn, errorOffset⟩ :=
            inductionHypothesis isSource (object.after held first)
          refine ⟨before, isTurn, ?_⟩
          rw [errorOffset, after_errorOffset, turns, List.take_succ_cons, List.flatMap_cons,
            List.getLast?_append]
          cases (((object.turns (object.after held first) sources).take k).flatMap
            Turn.offsets).getLast? <;> rfl

theorem turns_length (held : Held α) (sources : List (List Char)) :
    (object.turns held sources).length = sources.length := by
  induction sources generalizing held with
  | nil => rfl
  | cons source sources inductionHypothesis =>
      rw [turns, List.length_cons, inductionHypothesis, List.length_cons]

end Turns

section Forgets

variable {object} (forgets : object.Forgets)
include forgets

/-- What was held before a turn makes no difference to it but for the offset of the last error. -/
theorem turn_eq_new (held : Held α) (source : List Char) :
    object.turn held source =
      { object.turn object.new source with
        remains := { (object.turn object.new source).remains with
          errorOffset := (object.turn object.new source).offsets.getLast?.getD
            held.errorOffset } } := by
  have same := forgets source held object.new
  have errorOffset := object.after_errorOffset held source
  simp only [turn, remains, after_own, same] at errorOffset ⊢
  rw [errorOffset]

/-- A turn is that of a new object, but for an offset that is left from the turns before. -/
theorem likeNew_turn (held : Held α) (source : List Char) :
    object.LikeNew (object.turn held source) source held.errorOffset
      ((object.turn held source).offsets.getLast?.getD held.errorOffset) := by
  have newOffset : (object.turn object.new source).remains.errorOffset =
      (object.turn object.new source).offsets.getLast?.getD .null :=
    object.after_errorOffset object.new source
  rw [turn_eq_new forgets held source]
  refine ⟨rfl, rfl, rfl, rfl, rfl, fun visible => ?_, fun noErrors number => ?_⟩
  · cases last : (object.turn object.new source).offsets.getLast? with
    | some offset => simp [Whereabouts.offset, newOffset, last]
    | none =>
        have noErrors := List.getLast?_eq_none_iff.mp last
        have notNumber := visible.resolve_left (not_not_intro noErrors)
        have nullNoNumber : Value.null.integer? = none := rfl
        simp [Whereabouts.offset, newOffset, last, notNumber, nullNoNumber]
  · have last : (object.turn object.new source).offsets.getLast? = none :=
      List.getLast?_eq_none_iff.mpr noErrors
    simp [Whereabouts.offset, last, number]

/-- The turns are what the library tells of a grammar that is used again. -/
theorem rerun_eq_turns {grammars : Grammars} (isGrammar : grammars.classic = object.outcome)
    (held : Held α) (sources : List (List Char)) :
    grammars.rerun held.errorOffset sources =
      (object.turns held sources).map fun turn => (turn.ending, turn.remains) := by
  induction sources generalizing held with
  | nil => rfl
  | cons source sources inductionHypothesis =>
      have remains_eq : (object.outcome source).remains held.errorOffset =
          (object.turn held source).remains := by
        rw [turn_eq_new forgets held source]
        rfl
      have ending_eq : (object.outcome source).ending = (object.turn held source).ending := by
        rw [turn_eq_new forgets held source]
        rfl
      rw [Grammars.rerun, turns, List.map_cons, isGrammar]
      simp only [remains_eq, ending_eq]
      exact congrArg _ (inductionHypothesis (object.after held source))

end Forgets

/-- Sources that are parsed in turn with one object, each run of which starts afresh, meet what they
would meet with a new one: the run ends in the same way and builds the same errors. Only the offset
of the last error outlives a turn. It is the best known offset in the turns behind it as long as
they build no error, whether they succeed or fail. It still makes a place in their own source. -/
theorem reuse_leaks_offset (object : Reusable α) (forgets : object.Forgets)
    (sources : List (List Char)) :
    let turns := object.turns object.new sources
    turns.length = sources.length ∧
    (∀ grammars : Grammars, grammars.classic = object.outcome →
      grammars.rerun .null sources = turns.map fun turn => (turn.ending, turn.remains)) ∧
    ∀ (k : Nat) (source : List Char), sources[k]? = some source →
      ∃ turn, turns[k]? = some turn ∧
        object.LikeNew turn source (Turn.lastOffset (turns.take k))
          (Turn.lastOffset (turns.take (k + 1))) ∧
        (object.Counts → ∃ number : Int, turn.remains.offset.integer? = some number ∧
          Whereabouts.place source turn.remains.offset = .ok (Text.position source number) ∧
          Text.StandsAt source (Text.clamp source number) (Text.position source number)) := by
  intro turns
  refine ⟨object.turns_length object.new sources,
    fun grammars isGrammar => rerun_eq_turns forgets isGrammar object.new sources,
    fun k source isSource => ?_⟩
  obtain ⟨before, isTurn, earlier⟩ := object.turns_errorOffset isSource object.new
  have earlier_eq : before.errorOffset = Turn.lastOffset (turns.take k) := earlier
  have later_eq : (object.turn before source).offsets.getLast?.getD before.errorOffset =
      Turn.lastOffset (turns.take (k + 1)) := by
    have taken : turns.take (k + 1) = turns.take k ++ [object.turn before source] := by
      rw [List.take_add_one, isTurn]
      rfl
    rw [earlier_eq, taken, Turn.lastOffset, Turn.lastOffset, List.flatMap_append,
      List.getLast?_append, List.flatMap_singleton]
    cases (object.turn before source).offsets.getLast? <;> rfl
  have likeNew := likeNew_turn forgets before source
  rw [later_eq, earlier_eq] at likeNew
  refine ⟨object.turn before source, isTurn, likeNew, fun counts => ?_⟩
  have index : (object.turn before source).remains.index.integer?.isSome ∨
      (object.turn before source).remains.index.isEmpty := by
    simp only [turn, remains, after_own]
    exact counts source before
  obtain ⟨number, isNumber⟩ := Whereabouts.exists_offset index
  exact ⟨number, isNumber, Whereabouts.place_of_integer isNumber source,
    Text.position_standsAt_clamp source number⟩

end Reusable

namespace Classic

variable (limits : Limits)

/-- The classic grammar of this library as an object. -/
def reusable : Reusable State where
  fresh := .initial limits []
  run source _ :=
    match program limits (.initial limits source) with
    | .ok _ state => ⟨.tree (.text "Program"), [], state⟩
    | .error failure state =>
        ⟨failure.ending limits, (failure.offset?.map fun offset => Value.int offset).toList, state⟩
  lookahead := State.shownLookahead
  index state := .int state.cursor.index

/-- A new object does what the library does. -/
theorem outcome_reusable : (reusable limits).outcome = outcome limits := by
  funext source
  unfold outcome Reusable.outcome
  simp only [Reusable.turn, Reusable.remains, Reusable.after_own, reusable]
  cases program limits (.initial limits source) with
  | ok found state => rfl
  | error failure state => cases failure <;> rfl

theorem forgets_reusable : (reusable limits).Forgets := fun _ _ _ => rfl

theorem counts_reusable : (reusable limits).Counts := fun _ _ => .inl rfl

/-- The offset of an error in one source is still known behind the next one, in which there is none.
It lies behind that source. -/
theorem stale_offset_behind_success :
    let object := reusable .usual
    ∃ turn, (object.turns object.new [['a', '('], ['1']])[1]? = some turn ∧
      ((Grammars.standard .usual).rerun .null [['a', '('], ['1']])[1]? =
        some (turn.ending, turn.remains) ∧
      turn.ending = .tree (.text "Program") ∧
      (object.turn object.new ['1']).remains.offset.integer? = some 11 ∧
      turn.remains.offset.integer? = some 5 ∧
      Whereabouts.place ['1'] turn.remains.offset = .ok ⟨1, 2⟩ := by
  intro object
  obtain ⟨state, ran⟩ : ∃ state, program .usual (.initial .usual ['1']) = .ok () state := by
    have succeeds : (match program .usual (.initial .usual ['1']) with
      | .ok .. => true
      | .error .. => false) = true := by decide +kernel
    revert succeeds
    cases program .usual (.initial .usual ['1']) with
    | ok found state => exact fun _ => ⟨state, rfl⟩
    | error failure state => exact nofun
  let turns := object.turns object.new [['a', '('], ['1']]
  have older : (Turn.lastOffset (turns.take 1)).integer? = some 5 := by decide +kernel
  obtain ⟨-, rerun_eq, each⟩ :=
    Reusable.reuse_leaks_offset object (forgets_reusable .usual) [['a', '('], ['1']]
  obtain ⟨turn, isTurn, likeNew, placed⟩ := each 1 ['1'] rfl
  have ending : turn.ending = .tree (.text "Program") := by
    rw [likeNew.ending_eq]
    simp only [Reusable.turn, object, reusable, ran]
  have noErrors : turn.offsets = [] := by
    rw [likeNew.offsets_eq]
    simp only [Reusable.turn, object, reusable, ran]
  have stale := likeNew.offset_stale noErrors (Option.isSome_iff_exists.mpr ⟨5, older⟩)
  obtain ⟨number, isNumber, place_eq, -⟩ := placed (counts_reusable .usual)
  rw [← stale] at older
  obtain rfl : 5 = number := Option.some.inj (older.symm.trans isNumber)
  refine ⟨turn, isTurn, ?_, ending, by decide +kernel, older, place_eq⟩
  rw [rerun_eq (.standard .usual) (outcome_reusable .usual).symm, List.getElem?_map, isTurn]
  rfl

end Classic

end ScriptCheck
