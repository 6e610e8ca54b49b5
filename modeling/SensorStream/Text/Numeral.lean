/-!
# Unsigned decimal numerals

The one spelling of a count that is accepted from outside: an optional plus
sign, then one or more ASCII digits, below a limit.  Leading zeros are allowed;
a minus sign, a blank or a separator inside the number is not.
-/

namespace SensorStream.Text

/-- The digits of a numeral, without its optional plus sign. -/
def unsigned : List Char → List Char
  | '+' :: digits => digits
  | digits => digits

/-- Read a numeral below `limit`. -/
def numeral? (limit : Nat) (text : List Char) : Option Nat :=
  let digits := unsigned text
  if digits.isEmpty || !digits.all Char.isDigit then none
  else
    let value := Nat.ofDigitChars 10 digits 0
    if value < limit then some value else none

theorem lt_of_numeral? {limit value : Nat} {text : List Char}
    (read : numeral? limit text = some value) : value < limit := by
  simp only [numeral?] at read
  split at read
  · simp at read
  · split at read
    · rename_i below
      cases read
      exact below
    · simp at read

/-- A 64-bit count in text, with white space on its sides left out by the caller. -/
def count? (text : List Char) : Option UInt64 :=
  (numeral? UInt64.size text).map UInt64.ofNat

end SensorStream.Text
