import ScriptCheck.Record.Load
import ScriptCheck.Text.Lines

/-!
# Where a check stood when it ended

The classic grammar tells only by its remains where it failed: the offset given to the last error
that was built, the token it was about to read, and the offset it had read up to.
`Whereabouts.offset` chooses among them, `Whereabouts.record` makes a record of the place in the
source.
-/

namespace ScriptCheck

/-- What a run of the classic grammar leaves behind. -/
structure Whereabouts where
  /-- The offset of the last error that was built, ever. -/
  errorOffset : Value := .null
  /-- The token that is read next; its field `start` is an offset. -/
  lookahead : Value := .null
  /-- The offset up to which the text was read. -/
  index : Value := .int 0
  deriving Repr, Inhabited

namespace Whereabouts

/-- The start of the token that is read next, if it has one. -/
def lookaheadStart? : Value → Option Value
  | .mapping fields =>
      match Value.field? fields "start" with
      | some start => if start.integer?.isSome then some start else none
      | none => none
  | _ => none

/-- The best known offset: of the last error, else of the next token, else of the reader. -/
def offset (remains : Whereabouts) : Value :=
  if remains.errorOffset.integer?.isSome then remains.errorOffset
  else match lookaheadStart? remains.lookahead with
    | some start => start
    | none => if remains.index.isEmpty then .int 0 else remains.index

/-- The place of an offset that may be no integer. A number with a fraction is good enough only if
it lies outside the text. -/
def place (source : List Char) (offset : Value) : Except Fault Text.Place :=
  match offset with
  | .bool truth => .ok (Text.position source (Value.ofTruth truth))
  | .int number => .ok (Text.position source number)
  | .float .nan => .error (.mismatch .cutsAtInteger)
  | .float (.infinite negative) =>
      .ok (Text.position source (if negative then 0 else source.length))
  | .float (.finite negative significand exponent) =>
      if Number.Binary64.compareInt negative significand exponent 0 == .lt then
        .ok (Text.position source 0)
      else if Number.Binary64.compareInt negative significand exponent source.length == .gt then
        .ok (Text.position source source.length)
      else .error (.mismatch .cutsAtInteger)
  | value => .error (.mismatch (.operands .exceeds "int" value.typeName))

/-- The record of an exception at the best known offset. -/
def record (limits : Limits) (remains : Whereabouts) (source : List Char) (raised : Raised) :
    Except Fault Record := do
  let place ← place source remains.offset
  Record.load limits (.mapping [("lineNumber", .int place.line), ("column", .int place.column),
    ("message", .text raised.headline)])

end Whereabouts

end ScriptCheck
