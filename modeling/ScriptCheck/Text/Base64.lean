/-!
# Octets as text

Three octets are written as four of sixty-four characters; one or two octets at the end are filled
up with equals signs. Long texts are cut into lines of 76 characters.
-/

namespace ScriptCheck.Text.Base64

/-- The character that stands for six bits. -/
def digit (value : Nat) : Char :=
  if value < 26 then Char.ofNat (65 + value)
  else if value < 52 then Char.ofNat (71 + value)
  else if value < 62 then Char.ofNat (value - 4)
  else if value = 62 then '+'
  else '/'

/-- The four digits of 24 bits. -/
def digits (bits : Nat) : List Char :=
  [digit (bits / 262144), digit (bits / 4096 % 64), digit (bits / 64 % 64), digit (bits % 64)]

/-- The characters of octets. -/
def encode : List UInt8 → List Char
  | [] => []
  | [first] => (digits (first.toNat * 65536)).take 2 ++ ['=', '=']
  | [first, second] => (digits (first.toNat * 65536 + second.toNat * 256)).take 3 ++ ['=']
  | first :: second :: third :: rest =>
      digits (first.toNat * 65536 + second.toNat * 256 + third.toNat) ++ encode rest

/-- Lines of `width` characters; `count` lines are enough. -/
def cut (width : Nat) : (count : Nat) → List Char → List (List Char)
  | 0, _ => []
  | count + 1, characters =>
      if characters.isEmpty then []
      else characters.take width :: cut width count (characters.drop width)

/-- The lines that octets are written on. -/
def lines (octets : List UInt8) : List (List Char) :=
  let characters := encode octets
  cut 76 characters.length characters

end ScriptCheck.Text.Base64
