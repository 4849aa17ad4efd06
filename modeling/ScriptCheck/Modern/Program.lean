import ScriptCheck.Modern.ModuleItem

/-!
# Programs

Readers of phrases are tied together level by level, and a whole source is read with the topmost
ones. `run` is a tolerant run with the problems that it logged; `runStrictly` is a strict run, which
ends at the first of them.
-/

namespace ScriptCheck.Modern

open ScriptCheck.Grammar

/-- Readers of phrases that nest less deeply than `depth`. -/
def phrases : (depth : Nat) → Phrases
  | 0 => .refusing
  | depth + 1 =>
      let inner := phrases depth
      { assignment := assignment inner
        unary := unary inner
        power := power inner
        member := memberExpression inner
        call := callExpression inner
        target := target inner
        statement := statement inner
        item := item inner }

/-- Read a whole source. The first token is read before the code is known to be a module. -/
def program (limits : Limits) (isModule : Bool) : Parse Unit := do
  let readers := phrases limits.modernDepth
  skipToken
  modify fun state => { state with lastMarker := state.cursorMarker }
  if isModule then
    modify fun state =>
      { state with
        readsModule := true
        context := { state.context with strict := true, isModule := true } }
  directives readers
  iterate () fun _ => do
    if ← isAtEndOfFile then return .inr ()
    readers.item
    return .inl ()

/-- What a tolerant run comes to, and the problems it logged, in order. -/
def run (limits : Limits) (source : Array Char) (isModule : Bool) :
    Except Failure Unit × List Problem :=
  match program limits isModule (.initial limits source) with
  | .ok _ state => (.ok (), state.tolerated.reverse)
  | .error failure state => (.error failure, state.tolerated.reverse)

/-- What a strict run comes to. -/
def runStrictly (limits : Limits) (source : Array Char) (isModule : Bool) :
    Except Failure Unit :=
  match program limits isModule (.initial limits source false) with
  | .ok _ _ => .ok ()
  | .error failure _ => .error failure

end ScriptCheck.Modern
