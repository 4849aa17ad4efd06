import ScriptCheck.Classic.Statement

/-!
# Classic programs

Readers of phrases are tied together level by level, and a whole source is read with the topmost
ones. A source whose expressions make a tree that is too tall is read to its end and fails there.
-/

namespace ScriptCheck.Classic

open ScriptCheck.Grammar

/-- Readers of phrases that nest less deeply than `depth`. -/
def phrases : (depth : Nat) → Phrases
  | 0 => .refusing
  | depth + 1 =>
      let inner := phrases depth
      { assignment := assignment inner
        unary := unary inner
        callee := callee inner
        statement := statement inner
        item := item inner }

/-- Read a whole source. -/
def program (limits : Limits) : Parse Unit := do
  let readers := phrases limits.classicDepth
  readFirst
  directives readers
  iterate () fun _ => do
    if ← isAtEndOfFile then return .inr ()
    readers.item
    return .inl ()
  if limits.classicChain < (← get).tallest then throw .tooDeep

end ScriptCheck.Classic
