/-!
# Sets of characters given by ranges

A set of code points is an ascending table of ranges, both ends included, and membership is found by
halving the table.
-/

namespace ScriptCheck.Text.Ranges

/-- Look for `code` in the ranges from `low` up to `high`; `steps` halvings are allowed. -/
def search (table : Array (Nat × Nat)) (code : Nat) : Nat → Nat → Nat → Option (Nat × Nat)
  | 0, _, _ => none
  | steps + 1, low, high =>
      if low < high then
        let middle := (low + high) / 2
        match table[middle]? with
        | none => none
        | some (first, last) =>
            if code < first then search table code steps low middle
            else if last < code then search table code steps (middle + 1) high
            else some (first, last)
      else none

/-- The range of the table that holds `code`. A table of `n` ranges needs at most `n` halvings. -/
def find? (table : Array (Nat × Nat)) (code : Nat) : Option (Nat × Nat) :=
  search table code table.size 0 table.size

/-- Whether a range of the table holds `code`. -/
def contains (table : Array (Nat × Nat)) (code : Nat) : Bool := (find? table code).isSome

end ScriptCheck.Text.Ranges
