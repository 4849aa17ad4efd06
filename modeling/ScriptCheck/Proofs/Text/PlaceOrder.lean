import Mathlib.Data.Prod.Lex
import Mathlib.Data.Set.Function
import ScriptCheck.Proofs.Text.Placement

/-!
# Offsets and places are in one order

An offset within a text and its place are two names of one thing. Each line starts behind the line
feed of the line before it, so the places of a text, line by line and column by column, follow each
other just as the offsets do: `StandsAt.lt_iff`. No place is left out and none is named twice, and
`position_isomorphism` says what the offset of a place is.
-/

namespace ScriptCheck.Text

/-- The offsets within a text, its end included. -/
def offsets (text : List Char) : Set Int := {offset | 0 ≤ offset ∧ offset ≤ text.length}

/-- The places of a text: the columns of its lines, and on each line the one right behind it. -/
def places (text : List Char) : Set Place :=
  {place | 1 ≤ place.line ∧ place.line ≤ (lines text).length ∧
    1 ≤ place.column ∧ place.column ≤ (lineAt text place.line).length + 1}

/-- The offset of a place: the lines before it with their line feeds, and the columns before it. -/
def offsetOf (text : List Char) (place : Place) : Nat :=
  lineStart text place.line + (place.column - 1)

/-- The order of places. An earlier line comes first, and on one line an earlier column. -/
def Place.key (place : Place) : Nat ×ₗ Nat := toLex (place.line, place.column)

theorem standsAt_iff {text : List Char} {offset : Nat} {place : Place} :
    StandsAt text offset place ↔ place ∈ places text ∧ offsetOf text place = offset :=
  ⟨fun stands => ⟨⟨stands.line_pos, stands.line_le, stands.column_pos, stands.column_le⟩,
      stands.offset_eq⟩,
    fun ⟨⟨line_pos, line_le, column_pos, column_le⟩, offset_eq⟩ =>
      ⟨line_pos, line_le, column_pos, column_le, offset_eq⟩⟩

/-- A line starts behind the one before it and its line feed. -/
theorem lineStart_succ {text : List Char} {number : Nat} (positive : 1 ≤ number)
    (number_le : number ≤ (lines text).length) :
    lineStart text (number + 1) = lineStart text number + (lineAt text number).length + 1 := by
  obtain ⟨before, rfl⟩ : ∃ before, number = before + 1 := ⟨number - 1, by omega⟩
  have within : before < (lines text).length := Nat.lt_of_succ_le number_le
  have oneMore : (lines text).take (before + 1) =
      (lines text).take before ++ [(lines text)[before]] :=
    List.take_succ_eq_append_getElem within
  have shown : lineAt text (before + 1) = (lines text)[before] := by
    simp [lineAt, within]
  simp only [lineStart, shown, Nat.add_sub_cancel, oneMore, List.map_append, List.map_singleton,
    List.sum_append, List.sum_singleton]
  rw [Nat.add_assoc]

/-- Behind the last line there would be the next one to start. -/
theorem lineStart_behind (text : List Char) :
    lineStart text ((lines text).length + 1) = text.length + 1 := by
  rw [lineStart, Nat.add_sub_cancel, List.take_length, sum_lines]

/-- A line has ended when a later one starts. -/
theorem lineStart_add_lt {text : List Char} {number other : Nat} (positive : 1 ≤ number)
    (later : number < other) (other_le : other ≤ (lines text).length + 1) :
    lineStart text number + (lineAt text number).length < lineStart text other := by
  induction other, later using Nat.le_induction with
  | base =>
      rw [lineStart_succ positive (Nat.le_of_succ_le_succ other_le)]
      exact Nat.lt_succ_self _
  | succ other later inductionHypothesis =>
      have reached := inductionHypothesis (Nat.le_of_succ_le other_le)
      rw [lineStart_succ (positive.trans (Nat.le_of_lt later)) (Nat.le_of_succ_le_succ other_le)]
      omega

/-- The offset of a place lies within the text, or right behind it. -/
theorem offsetOf_le {text : List Char} {place : Place} (isPlace : place ∈ places text) :
    offsetOf text place ≤ text.length := by
  obtain ⟨line_pos, line_le, -, column_le⟩ := isPlace
  have ended := lineStart_add_lt line_pos (Nat.lt_succ_of_le line_le) (Nat.le_refl _)
  rw [lineStart_behind] at ended
  unfold offsetOf
  omega

section Order

variable {text : List Char} {offset other : Nat} {place otherPlace : Place}

/-- An earlier line has the earlier offsets. -/
theorem StandsAt.lt_of_line (first : StandsAt text offset place)
    (second : StandsAt text other otherPlace) (earlier : place.line < otherPlace.line) :
    offset < other := by
  have ended := lineStart_add_lt first.line_pos earlier (Nat.le_succ_of_le second.line_le)
  have column_le := first.column_le
  have offset_eq := first.offset_eq
  have other_eq := second.offset_eq
  omega

/-- Places follow each other as their offsets do. -/
theorem StandsAt.lt_iff (first : StandsAt text offset place)
    (second : StandsAt text other otherPlace) :
    place.key < otherPlace.key ↔ offset < other := by
  rw [Place.key, Place.key, Prod.Lex.toLex_lt_toLex]
  rcases Nat.lt_trichotomy place.line otherPlace.line with earlier | same | later
  · exact iff_of_true (.inl earlier) (first.lt_of_line second earlier)
  · have offset_eq := first.offset_eq
    have other_eq := second.offset_eq
    have column_pos := first.column_pos
    have otherColumn_pos := second.column_pos
    rw [same] at offset_eq
    simp only [same, Nat.lt_irrefl, true_and, false_or]
    omega
  · have behind := second.lt_of_line first later
    simp only [Nat.lt_asymm later, Nat.ne_of_gt later, false_and, or_self, false_iff]
    omega

/-- An offset has one place only. -/
theorem StandsAt.place_eq (first : StandsAt text offset place)
    (second : StandsAt text offset otherPlace) : place = otherPlace := by
  have same : place.key = otherPlace.key :=
    le_antisymm (not_lt.1 fun later => Nat.lt_irrefl _ ((second.lt_iff first).1 later))
      (not_lt.1 fun earlier => Nat.lt_irrefl _ ((first.lt_iff second).1 earlier))
  have coordinates : (place.line, place.column) = (otherPlace.line, otherPlace.column) :=
    toLex.injective same
  cases place
  cases otherPlace
  cases coordinates
  rfl

end Order

/-- What stands at an integer within a text stands at the number that it is. -/
theorem position_standsAt_toNat {text : List Char} {offset : Int}
    (within : offset ∈ offsets text) :
    StandsAt text offset.toNat (position text offset) := by
  have stands : StandsAt text offset.toNat (position text offset.toNat) :=
    position_standsAt (Int.toNat_le.2 within.2)
  rwa [Int.toNat_of_nonneg within.1] at stands

/-- A place of a text is that of its offset. -/
theorem position_offsetOf {text : List Char} {place : Place} (isPlace : place ∈ places text) :
    position text (offsetOf text place) = place :=
  (position_standsAt (offsetOf_le isPlace)).place_eq (standsAt_iff.2 ⟨isPlace, rfl⟩)

/-- Between the offsets within a text, its end included, and the places of the text there is one
correspondence. `position` and `offsetOf` lead to and fro, and the order of the places is that of
the offsets. Offsets before the text have the place of its start, and those behind it the place of
its end. -/
theorem position_isomorphism (text : List Char) :
    Set.BijOn (position text) (offsets text) (places text) ∧
    Set.InvOn (fun place => (offsetOf text place : Int)) (position text) (offsets text)
      (places text) ∧
    (∀ offset ∈ offsets text, ∀ other ∈ offsets text,
      (position text offset).key < (position text other).key ↔ offset < other) ∧
    (∀ offset < 0, position text offset = position text 0) ∧
    ∀ offset > (text.length : Int), position text offset = position text text.length := by
  have intoPlaces : Set.MapsTo (position text) (offsets text) (places text) :=
    fun offset within => (standsAt_iff.1 (position_standsAt_toNat within)).1
  have intoOffsets : Set.MapsTo (fun place => (offsetOf text place : Int)) (places text)
      (offsets text) :=
    fun place isPlace => ⟨Int.natCast_nonneg _, Int.ofNat_le.2 (offsetOf_le isPlace)⟩
  have inverse : Set.InvOn (fun place => (offsetOf text place : Int)) (position text)
      (offsets text) (places text) := by
    refine ⟨fun offset within => ?_, fun place isPlace => position_offsetOf isPlace⟩
    have stands := position_standsAt_toNat within
    simp only [(standsAt_iff.1 stands).2, Int.toNat_of_nonneg within.1]
  refine ⟨inverse.bijOn intoPlaces intoOffsets, inverse, fun offset within other otherWithin => ?_,
    fun offset before => ?_, fun offset behind => ?_⟩
  · have stands := position_standsAt_toNat within
    have otherStands := position_standsAt_toNat otherWithin
    have nonneg := within.1
    have otherNonneg := otherWithin.1
    rw [stands.lt_iff otherStands]
    omega
  · have start : clamp text offset = 0 := by
      unfold clamp
      omega
    rw [← position_clamp, start]
    rfl
  · have last : clamp text offset = text.length := by
      unfold clamp
      omega
    rw [← position_clamp, last]

/-- The place behind two line feeds is that of the end of the text, and of all that lies behind
it. -/
theorem place_behind_line_feeds :
    let text := ['a', '\n', '\n']
    (∃ offset ∈ offsets text, position text offset = ⟨3, 1⟩) ∧
    (-2 : Int) < 0 ∧ position text (-2) = position text 0 ∧
    (9 : Int) > text.length ∧ position text 9 = position text text.length := by
  intro text
  obtain ⟨bijection, -, -, before, behind⟩ := position_isomorphism text
  have isPlace : (⟨3, 1⟩ : Place) ∈ places text := ⟨by decide, by decide, by decide, by decide⟩
  exact ⟨bijection.surjOn isPlace, by decide, before (-2) (by decide), by decide,
    behind 9 (by decide)⟩

end ScriptCheck.Text
