/-!
# Text in UTF-16 units

Device strings arrive as sequences of 16-bit units.  A unit below `0xD800` or
above `0xDFFF` is a character by itself; the others come in pairs, a high one
and then a low one, and a unit that lacks its partner is an error.
-/

namespace SensorStream.Text.Utf16

/-- First halves of a pair. -/
def isHigh (unit : UInt16) : Bool :=
  0xD800 ≤ unit && unit ≤ 0xDBFF

/-- Second halves of a pair. -/
def isLow (unit : UInt16) : Bool :=
  0xDC00 ≤ unit && unit ≤ 0xDFFF

def pair (high low : UInt16) : Char :=
  Char.ofNat (0x10000 + (high.toNat - 0xD800) * 0x400 + (low.toNat - 0xDC00))

/-- Read units as characters; a unit without its partner spoils the whole. -/
def decode? : List UInt16 → Option (List Char)
  | [] => some []
  | [unit] => if isHigh unit || isLow unit then none else some [Char.ofNat unit.toNat]
  | unit :: next :: rest =>
      if isHigh unit then
        if isLow next then (decode? rest).map (pair unit next :: ·) else none
      else if isLow unit then none
      else (decode? (next :: rest)).map (Char.ofNat unit.toNat :: ·)

def units (character : Char) : List UInt16 :=
  let code := character.toNat
  if code < 0x10000 then [UInt16.ofNat code]
  else
    [UInt16.ofNat (0xD800 + (code - 0x10000) / 0x400),
      UInt16.ofNat (0xDC00 + (code - 0x10000) % 0x400)]

def encode (text : List Char) : List UInt16 :=
  text.flatMap units

end SensorStream.Text.Utf16
