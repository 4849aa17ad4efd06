import ScriptCheck.Text.Digits

/-!
# Limits

The library sets no bounds of its own, but what it runs on does: integers of very many digits are
neither written nor read in decimal, and calls nest only so deep. `Limits` holds these bounds. They
are settings of the machine and no part of the library, so what is said here is said for all of
them.
-/

namespace ScriptCheck

/-- The bounds of a machine. Depths count what nests and not the frames of calls, of which a phrase
or a value takes several. -/
structure Limits where
  /-- The greatest number of decimal digits that an integer is written with or read from, if there
  is one. -/
  digits : Option Nat
  /-- Integers of up to 640 digits are converted under every setting. -/
  generous : ∀ most ∈ digits, 640 ≤ most
  /-- How many lists and mappings may stand around a value whose text is made, if there is a bound
  on them. -/
  valueDepth : Option Nat
  /-- How deeply phrases of the modern grammar may nest. -/
  modernDepth : Nat
  /-- How deeply phrases of the classic grammar may nest. -/
  classicDepth : Nat
  /-- How many operators, members and calls may be chained in the classic grammar. -/
  classicChain : Nat
  /-- How deeply the brackets of a regular expression may nest. -/
  patternDepth : Nat
  deriving Repr

namespace Limits

/-- The limits that runs are compared under. The number of digits is the one that machines are
delivered with. The depths stand for a thousand frames: what nests a few dozen levels deep is read
either way, and what nests thousands of levels deep is not. -/
def usual : Limits where
  digits := some 4300
  generous _ most := Option.some.inj most ▸ by decide
  valueDepth := some 900
  modernDepth := 800
  classicDepth := 400
  classicChain := 480
  patternDepth := 400

instance : Inhabited Limits := ⟨usual⟩

variable (limits : Limits)

/-- Whether integers of so many digits are converted. -/
def Allows (count : Nat) : Prop := ∀ most ∈ limits.digits, count ≤ most

instance (count : Nat) : Decidable (limits.Allows count) :=
  inferInstanceAs (Decidable (∀ most ∈ limits.digits, count ≤ most))

/-- Whether an integer is converted. Its sign does not count. -/
def Writes (number : Int) : Prop := limits.Allows (Text.decimal number.natAbs).length

instance (number : Int) : Decidable (limits.Writes number) :=
  inferInstanceAs (Decidable (limits.Allows _))

/-- Whether a value within `depth` lists and mappings lies too deep for its text to be made. -/
def isTooDeep (depth : Nat) : Bool := limits.valueDepth.any (· < depth)

/-- The greatest number of digits, as it is named where an integer has more. -/
def mostDigits : Nat := limits.digits.getD 0

end Limits

/-- What is said about an integer of more than `most` digits. -/
def excessText (most : Nat) : String :=
  "Exceeds the limit (" ++ String.ofList (Text.decimal most) ++
    " digits) for integer string conversion; " ++
    "use sys.set_int_max_str_digits() to increase the limit"

end ScriptCheck
