import ScriptCheck.Modern.Binding
import ScriptCheck.Proofs.Places.Stepping

/-!
# Places while names and patterns are read
-/

namespace ScriptCheck.Modern

open ScriptCheck.Grammar

instance : Placeless Node := ⟨⟩

/-- A target leads to complaints about the tokens of its names. -/
instance : Placeable Target where
  Placed text target := Placed text target.names

@[grind =] theorem placed_target {text : Array Char} (target : Target) :
    Placed text target ↔ Placed text target.names := .rfl

/-- The tokens of several targets have places if the targets have. -/
@[grind ←] theorem placed_names {text : Array Char} {targets : List Target}
    (placed : Placed text targets) : Placed text (targets.flatMap Target.names) := by
  intro token listed
  obtain ⟨target, isTarget, ofTarget⟩ := List.mem_flatMap.1 listed
  exact placed target isTarget token ofTarget

/-- Readers of inner phrases that keep states sound. -/
structure Phrases.Keep (text : Array Char) (inner : Phrases) : Prop where
  assignment : Keeps text inner.assignment
  unary : Keeps text inner.unary
  power : Keeps text inner.power
  member : Keeps text inner.member
  call : Keeps text inner.call
  target : ∀ kind, Keeps text (inner.target kind)
  statement : Keeps text inner.statement
  item : Keeps text inner.item

attribute [grind ←] Phrases.Keep.assignment Phrases.Keep.unary Phrases.Keep.power
  Phrases.Keep.member Phrases.Keep.call Phrases.Keep.target Phrases.Keep.statement
  Phrases.Keep.item

variable {text : Array Char} {inner : Phrases} (keep : inner.Keep text)

@[grind .] theorem keeps_wordAsName : Keeps text wordAsName := by
  intro state sound settled
  unfold wordAsName
  grind

@[grind .] theorem keeps_boundName (kind : BindingKind) : Keeps text (boundName kind) := by
  intro state sound settled
  unfold boundName
  grind

include keep

@[grind ←] theorem keeps_expression : Keeps text (expression inner) := by
  intro state sound settled
  unfold expression
  refine Meets.keeps_bind (keeps_isolated keep.assignment) sound settled
    fun first state sound settled _ => ?_
  grind

@[grind ←] theorem keeps_propertyKey : Keeps text (propertyKey inner) := by
  intro state sound settled
  unfold propertyKey
  refine Meets.keeps_bind keeps_nextToken sound settled fun token state sound settled placed => ?_
  dsimp only
  split <;> grind

@[grind ←] theorem keeps_targetWithDefault (kind : BindingKind) :
    Keeps text (targetWithDefault inner kind) := by
  intro state sound settled
  unfold targetWithDefault
  grind

@[grind ←] theorem keeps_restOfArray (kind : BindingKind) :
    Keeps text (restOfArray inner kind) := by
  intro state sound settled
  unfold restOfArray
  grind

@[grind ←] theorem keeps_arrayPattern (kind : BindingKind) :
    Keeps text (arrayPattern inner kind) := by
  intro state sound settled
  unfold arrayPattern
  refine Meets.keeps_bind (keeps_expect "[") sound settled fun _ state sound settled _ =>
    Meets.iterate_kept_bind sound settled (placed_nil.2 trivial) ?_ ?_
  · grind
  · grind

@[grind ←] theorem keeps_propertyPattern (kind : BindingKind) :
    Keeps text (propertyPattern inner kind) := by
  intro state sound settled
  unfold propertyPattern
  grind

@[grind ←] theorem keeps_restOfObject : Keeps text (restOfObject inner) := by
  intro state sound settled
  unfold restOfObject
  grind

@[grind ←] theorem keeps_objectPattern (kind : BindingKind) :
    Keeps text (objectPattern inner kind) := by
  intro state sound settled
  unfold objectPattern
  have property : Keeps text (do
      let property ←
        if ← isAtSign ["..."] then restOfObject inner else propertyPattern inner kind
      if !(← isAtSign ["\x7d"]) then expect ","
      return property) := by
    intro state sound settled
    grind
  refine Meets.keeps_bind (keeps_expect "\x7b") sound settled fun _ state sound settled _ =>
    Meets.keeps_bind (keeps_untilSign property "\x7d") sound settled
      fun properties state sound settled placed => ?_
  grind

@[grind ←] theorem keeps_target (kind : BindingKind) : Keeps text (target inner kind) := by
  intro state sound settled
  unfold target
  grind

end ScriptCheck.Modern
