/-!
# UTF-8

Octets as text. A sequence of octets that is ill-formed is cut into parts: a lead octet takes along
the octets that could go on with it, and any other octet is a part of its own. Each part becomes one
U+FFFD, and what is well-formed around it is kept.
-/

namespace ScriptCheck.Text.Utf8

/-- A sequence of which octets are still missing. The next one has to lie between two bounds; those
behind it may be any octets that continue a sequence. -/
structure Unfinished where
  value : Nat
  missing : Nat
  lower : Nat := 0x80
  upper : Nat := 0xBF
  deriving DecidableEq, Repr

/-- The mark of an ill-formed part. -/
def replacement : Char := '\ufffd'

/-- What an octet does where no sequence is open: characters that are complete, and a sequence that
it opens. The bounds of the second octet leave out what has a shorter sequence, the halves of
surrogate pairs, and what lies behind the last code point. -/
def start (octet : UInt8) : List Char × Option Unfinished :=
  let code := octet.toNat
  if code < 0x80 then ([Char.ofNat code], none)
  else if code < 0xC2 then ([replacement], none)
  else if code < 0xE0 then ([], some { value := code - 0xC0, missing := 1 })
  else if code = 0xE0 then ([], some { value := 0, missing := 2, lower := 0xA0 })
  else if code = 0xED then ([], some { value := 0xD, missing := 2, upper := 0x9F })
  else if code < 0xF0 then ([], some { value := code - 0xE0, missing := 2 })
  else if code = 0xF0 then ([], some { value := 0, missing := 3, lower := 0x90 })
  else if code < 0xF4 then ([], some { value := code - 0xF0, missing := 3 })
  else if code = 0xF4 then ([], some { value := 4, missing := 3, upper := 0x8F })
  else ([replacement], none)

/-- What an octet does to an open sequence. One that does not go on with it ends the ill-formed part
and starts anew. -/
def resume (sequence : Unfinished) (octet : UInt8) : List Char × Option Unfinished :=
  let code := octet.toNat
  if sequence.lower ≤ code ∧ code ≤ sequence.upper then
    let value := sequence.value * 64 + (code - 0x80)
    if sequence.missing ≤ 1 then ([Char.ofNat value], none)
    else ([], some { value, missing := sequence.missing - 1 })
  else
    let (characters, opened) := start octet
    (replacement :: characters, opened)

/-- The characters of octets behind a sequence that may be open. -/
def decodeFrom : Option Unfinished → List UInt8 → List Char
  | none, [] => []
  | some _, [] => [replacement]
  | sequence, octet :: octets =>
      let (characters, opened) := match sequence with
        | none => start octet
        | some sequence => resume sequence octet
      characters ++ decodeFrom opened octets

/-- The characters of octets. -/
def decode (octets : List UInt8) : List Char := decodeFrom none octets

/-- The octets of characters. -/
def encode (characters : List Char) : List UInt8 := (String.ofList characters).toUTF8.toList

end ScriptCheck.Text.Utf8
